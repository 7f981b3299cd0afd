import PanelPuzzle.Json.Record
import PanelPuzzle.Json.Variant
import PanelPuzzle.Proofs.Json.Contents
/-!
# Written records and variants are read back

A record is written field by field, and its fields are read in the order in which they come.  If
they come in the order of the list of fields, each puts its part into what was read before.

* `Field.Fills` — the fields of a record, put in one after the other.
* `JsonReader.reads_record` — **a record is read back as what its fields make.**
* `JsonReader.reads_variant`, `JsonReader.reads_choice` — variants and choices are read back.
-/

namespace PanelPuzzle

open JsonReader

variable {α β : Type}

/-! ## Fields -/

namespace Field

/-- Fields with values that are put into a record one after the other: what they make of `a`. -/
inductive Fills : List (Field α) → List (String × JsonValue) → α → α → Prop
  | nil {a : α} : Fills [] [] a a
  | cons {field : Field α} {fields : List (Field α)} {value : JsonValue}
      {values : List (String × JsonValue)} {a b c : α} :
      Reads (field.read a) value b → Fills fields values b c →
        Fills (field :: fields) ((field.name, value) :: values) a c

/-- The value of a field that has to be there is put in. -/
lemma reads_required {name : String} {reader : JsonReader β} {put : β → α → α} {value : JsonValue}
    {b : β} (h : Reads reader value b) (a : α) :
    Reads ((required name reader put).read a) value (put b a) :=
  h.map fun b => put b a

/-- The value of a field that may be missing is put in. -/
lemma reads_optional {name : String} {reader : JsonReader β} {put : Option β → α → α}
    {value : JsonValue} {b : Option β} (h : Reads reader.optional value b) (a : α) :
    Reads ((optional name reader put).read a) value (put b a) :=
  h.map fun b => put b a

end Field

namespace JsonReader

/-! ## The texts of records -/

lemma write_record_cons (layout : JsonLayout) (name : String) (value : JsonValue)
    (fields : List (String × JsonValue)) :
    ((JsonValue.record ((name, value) :: fields)).write layout).toList =
      '\x7b' :: (layout.deeper.lineBreak.toList ++ ('"' :: ((Quoted.write name).toList.tail ++
        (layout.deeper.colon.toList ++ ((value.write layout.deeper).toList ++
          ((JsonValue.writeFields layout.deeper fields).toList ++
            (layout.lineBreak.toList ++ ['\x7d']))))))) := by
  simp [JsonValue.write, Quoted.write]

lemma writeFields_cons (layout : JsonLayout) (name : String) (value : JsonValue)
    (fields : List (String × JsonValue)) :
    (JsonValue.writeFields layout ((name, value) :: fields)).toList =
      ',' :: (layout.lineBreak.toList ++ ('"' :: ((Quoted.write name).toList.tail ++
        (layout.colon.toList ++ ((value.write layout).toList ++
          (JsonValue.writeFields layout fields).toList))))) := by
  simp [JsonValue.writeFields, Quoted.write]

lemma length_le_writeFields (layout : JsonLayout) (fields : List (String × JsonValue)) :
    fields.length ≤ (JsonValue.writeFields layout fields).toList.length := by
  induction fields with
  | nil => exact Nat.zero_le _
  | cons field fields ih =>
    obtain ⟨name, value⟩ := field
    simp only [writeFields_cons, List.length_cons, List.length_append]
    omega

lemma Stops.writeFields (layout : JsonLayout) (fields : List (String × JsonValue)) {rest : List Char}
    (stops : Stops rest) : Stops ((JsonValue.writeFields layout fields).toList ++ rest) := by
  cases fields with
  | nil => simpa [JsonValue.writeFields] using stops
  | cons field fields =>
    rw [writeFields_cons]
    exact .cons (by decide) _

lemma begins_record (fields : List (String × JsonValue)) : Begins (.record fields) := by
  intro layout
  cases fields with
  | nil => exact ⟨'\x7b', ['\x7d'], by simp [JsonValue.write], by decide⟩
  | cons field fields => exact ⟨_, _, write_record_cons layout field.1 field.2 fields, by decide⟩

/-- The colon after a name, and the value after it. -/
lemma expect_colon (second : Unit → JsonReader β) (layout : JsonLayout) (bound : Nat)
    (text : List Char) :
    ∃ gap, Blank gap ∧
      (expect ':' >>= second) bound (layout.colon.toList ++ text) = second () bound (gap ++ text) := by
  cases layout with
  | oneLine =>
    refine ⟨[], Blank.nil, ?_⟩
    simpa [JsonLayout.colon] using expect_bind_cons (c := ':') rfl bound text
  | lines depth =>
    refine ⟨[' '], by simp [Blank, isBlank], ?_⟩
    simpa [JsonLayout.colon] using expect_bind_cons (c := ':') rfl bound (' ' :: text)

/-! ## Reading records -/

lemma moreFields_first {before : List Char} (blank : Blank before) (bound : Nat) (text : List Char) :
    moreFields true bound (before ++ '"' :: text) = .ok (true, text) := by
  rw [moreFields, token_bind blank rfl, if_neg (by decide)]
  exact expect_bind_cons rfl bound text

lemma moreFields_comma {before : List Char} (blank : Blank before) (bound : Nat) (text : List Char) :
    moreFields false bound (',' :: (before ++ '"' :: text)) = .ok (true, text) := by
  rw [moreFields, token_bind_cons rfl, if_neg (by decide), if_pos (by decide),
    expect_bind_cons rfl]
  exact expect_bind blank rfl bound text

lemma moreFields_end {before : List Char} (blank : Blank before) (isFirst : Bool) (bound : Nat)
    (text : List Char) :
    moreFields isFirst bound (before ++ '\x7d' :: text) = .ok (false, '\x7d' :: text) := by
  rw [moreFields, token_bind blank rfl, if_pos rfl]
  rfl

/-- One field of a record is read, and the rest of them after it. -/
lemma fieldsByName_field {fields : List (Field α)} {field : Field α} {value : JsonValue} {a b : α}
    {found : List String} {isFirst : Bool} (layout : JsonLayout) {lead rest : List Char}
    (steps : Nat) {bound : Nat}
    (starts : moreFields isFirst bound lead = .ok (true, (Quoted.write field.name).toList.tail ++
      (layout.colon.toList ++ ((value.write layout).toList ++ rest))))
    (isNew : field.name ∉ found) (known : fields.find? (·.name = field.name) = some field)
    (reads : Reads (field.read a) value b) (name_fits : field.name.toList.length ≤ bound)
    (fits : (value.write layout).toList.length ≤ bound) (stops : Stops rest) :
    fieldsByName fields (steps + 1) isFirst found a bound lead =
      fieldsByName fields steps false (field.name :: found) b bound rest := by
  rw [fieldsByName, bind_of_ok starts, if_pos rfl, bind_of_ok (quoted_write name_fits)]
  simp only [known]
  rw [if_neg (by simpa using isNew)]
  obtain ⟨gap, blank, colon⟩ := expect_colon (fun _ => do
    let a ← field.read a
    fieldsByName fields steps false (field.name :: found) a) layout bound
      ((value.write layout).toList ++ rest)
  rw [colon, bind_of_ok (reads layout blank fits stops)]

/-- The fields of a record after the first are read back, by induction on them. -/
lemma fieldsByName_write {fields : List (Field α)} (distinct : (fields.map Field.name).Nodup)
    (layout : JsonLayout) {before : List Char} (blank : Blank before) (rest : List Char) {bound : Nat}
    {todo : List (Field α)} {values : List (String × JsonValue)} {a c : α}
    (fills : Field.Fills todo values a c) :
    ∀ done : List (Field α), fields = done ++ todo →
      ∀ found : List String, (∀ name, name ∈ found ↔ name ∈ done.map Field.name) →
      ∀ {steps}, values.length < steps →
      (JsonValue.writeFields layout values).toList.length ≤ bound →
      fieldsByName fields steps false found a bound
          ((JsonValue.writeFields layout values).toList ++ (before ++ '\x7d' :: rest)) =
        .ok (c, rest) := by
  induction fills with
  | nil =>
    rintro done rfl found found_iff (_ | steps) enough fits
    · cases enough
    · simp only [JsonValue.writeFields, String.toList_empty, List.nil_append]
      rw [fieldsByName, bind_of_ok (moreFields_end blank _ _ _), if_neg (by decide), if_pos]
      · rfl
      · simp_all only [List.append_nil, List.all_eq_true, List.contains_eq_mem, decide_eq_true_eq,
          Bool.or_eq_true]
        intro field mem
        exact .inr (List.mem_map_of_mem mem)
  | @cons field todo value values a b c reads _ ih =>
    rintro done rfl found found_iff (_ | steps) enough fits
    · cases enough
    · rw [List.length_cons, Nat.add_lt_add_iff_right] at enough
      rw [List.map_append, List.nodup_append] at distinct
      obtain ⟨-, -, apart⟩ := distinct
      have isNew : field.name ∉ found := fun mem => apart _ ((found_iff _).1 mem) field.name (by simp) rfl
      have known : (done ++ field :: todo).find? (·.name = field.name) = some field := by
        rw [List.find?_append, List.find?_eq_none.2]
        · simp
        · intro other mem same
          exact apart other.name (List.mem_map_of_mem mem) field.name (by simp) (by simpa using same)
      rw [writeFields_cons] at fits ⊢
      simp only [List.length_cons, List.length_append] at fits
      have name_fits := length_le_length_write field.name
      have closes := Stops.blank_append blank (.cons (c := '\x7d') (by decide) rest)
      simp only [List.cons_append, List.append_assoc]
      rw [fieldsByName_field layout steps (moreFields_comma (blank_lineBreak layout) bound _) isNew known
        reads (by omega) (by omega) (Stops.writeFields layout values closes)]
      refine ih (done ++ [field]) (by simp) _ (fun name => ?_) enough (by omega)
      rw [List.mem_cons, found_iff, List.map_append, List.mem_append, or_comm]
      simp

/-- **A record is read back as what its fields make,** if it has all fields, in their order. -/
theorem reads_record {fields : List (Field α)} (distinct : (fields.map Field.name).Nodup)
    {values : List (String × JsonValue)} {blank a : α} (fills : Field.Fills fields values blank a) :
    Reads (record fields blank) (.record values) a := by
  intro layout bound before rest before_blank fits stops
  cases fills with
  | nil =>
    have empty : ((JsonValue.record []).write layout).toList ++ rest = '\x7b' :: '\x7d' :: rest := by
      simp [JsonValue.write]
    rw [empty, record, token_bind before_blank rfl, if_pos rfl, advance_bind]
    exact fieldsByName_write distinct layout Blank.nil rest .nil [] rfl [] (by simp)
      (Nat.succ_pos bound) (Nat.zero_le bound)
  | @cons field todo value values _ b c reads more =>
    rw [write_record_cons] at fits ⊢
    simp only [List.length_cons, List.length_append] at fits
    have name_fits := length_le_length_write field.name
    have enough := length_le_writeFields layout.deeper values
    have closes := Stops.blank_append (blank_lineBreak layout) (.cons (c := '\x7d') (by decide) rest)
    have known : (field :: todo).find? (·.name = field.name) = some field := by simp
    have first := fieldsByName_field layout.deeper bound
      (moreFields_first (blank_lineBreak layout.deeper) bound _) List.not_mem_nil known reads
      (by omega) (Nat.le_trans (by omega) fits) (Stops.writeFields layout.deeper values closes)
    have others := fieldsByName_write distinct layout.deeper (blank_lineBreak layout) rest more [field]
      rfl [field.name] (by simp) (Nat.lt_of_lt_of_le (by omega) fits) (Nat.le_trans (by omega) fits)
    rw [others] at first
    simp only [List.cons_append, List.append_assoc, List.nil_append]
    rw [record, token_bind before_blank rfl, if_pos rfl, advance_bind]
    exact first

/-! ## Variants -/

/-- **A variant that holds a value is read back.** -/
theorem reads_variant {variants : List (String × Variant α)} {name : String} {reader : JsonReader α}
    {value : JsonValue} {a : α} (known : variants.find? (·.1 = name) = some (name, .holding reader))
    (reads : Reads reader value a) : Reads (variant variants) (.record [(name, value)]) a := by
  intro layout bound before rest blank fits stops
  rw [write_record_cons] at fits ⊢
  simp only [List.length_cons, List.length_append] at fits
  have name_fits := length_le_length_write name
  have found : variantOf variants name = pure (.holding reader) := by
    rw [variantOf, known]
  simp only [List.cons_append, List.append_assoc, List.nil_append]
  rw [variant, token_bind blank rfl, if_neg (by decide), if_pos rfl, advance_bind,
    expect_bind (blank_lineBreak layout.deeper) rfl, bind_of_ok (quoted_write (by omega)), found,
    bind_of_ok (pure_apply _ _ _)]
  have closes := blank_lineBreak layout
  obtain ⟨gap, gap_blank, colon⟩ := expect_colon (fun _ => do
    let a ← held (.holding reader)
    expect '\x7d'
    pure a) layout.deeper bound ((value.write layout.deeper).toList ++
      (layout.lineBreak.toList ++ '\x7d' :: rest))
  have held_reads := reads layout.deeper gap_blank (Nat.le_trans (by omega) fits)
    (Stops.blank_append closes (.cons (c := '\x7d') (by decide) rest))
  simp only [JsonValue.writeFields, String.toList_empty, List.nil_append]
  rw [colon, held, bind_of_ok held_reads]
  exact expect_bind closes rfl bound rest

/-- **A choice is read back,** by its name. -/
theorem reads_choice {values : List α} {name : α → String} {a : α}
    (known : values.find? (fun v => name v = name a) = some a) :
    Reads (choice values name) (.text (name a)) a := by
  intro layout bound before rest blank fits stops
  rw [write_text] at fits ⊢
  have found : variantOf (values.map fun v => (name v, Variant.plain v)) (name a) =
      pure (.plain a) := by
    rw [variantOf, List.find?_map]
    simp only [Function.comp_def, known]
    rfl
  rw [choice, List.cons_append, variant, token_bind blank rfl, if_pos rfl, advance_bind,
    bind_of_ok (quoted_write ((length_le_length_write _).trans (Nat.le_of_succ_le fits))), found]
  rfl

end JsonReader

end PanelPuzzle
