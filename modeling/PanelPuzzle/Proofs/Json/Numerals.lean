import Mathlib.Data.List.TakeWhile
import Mathlib.Tactic.Common
import PanelPuzzle.Json.Content
import PanelPuzzle.Json.Value
import PanelPuzzle.Proofs.Text.Numerals
/-!
# Where a numeral ends

A numeral has no closing mark: it ends at the first character that cannot be part of one.  So the
reading of a numeral that was written alone is also the reading of it inside a longer text, as long
as what follows cannot be part of it.

* `JsonReader.Stops` — a text that cannot go on with a numeral.
* `JsonReader.Extends` — a reader that takes the same from a longer text.
* `JsonReader.extends_numeral` — **numerals are read so.**
* `JsonReader.number_append` — a number that is read back alone is read back inside a text.
-/

namespace PanelPuzzle

namespace JsonReader

variable {α β : Type}

/-! ## Readers that take the same from a longer text -/

/-- What may follow a numeral: nothing, or a character that is no part of one. -/
def Stops (rest : List Char) : Prop :=
  ∀ c ∈ rest.head?, c.isDigit = false ∧ c ≠ '.' ∧ c ≠ 'e' ∧ c ≠ 'E'

/-- A reader that takes the same when more is put at the end of the text, and that takes it from the
front. -/
def Extends (reader : JsonReader α) : Prop :=
  ∀ ⦃bound text a left⦄, reader bound text = .ok (a, left) →
    left <:+ text ∧ ∀ bound' rest, Stops rest → reader bound' (text ++ rest) = .ok (a, left ++ rest)

lemma bind_eq_ok {first : JsonReader α} {second : α → JsonReader β} {bound : Nat}
    {text left : List Char} {b : β} (h : (first >>= second) bound text = .ok (b, left)) :
    ∃ a mid, first bound text = .ok (a, mid) ∧ second a bound mid = .ok (b, left) := by
  rw [bind_apply] at h
  cases ran : first bound text with
  | error e => simp [ran, Except.bind] at h
  | ok p => exact ⟨p.1, p.2, rfl, by simpa [ran, Except.bind] using h⟩

lemma bind_of_ok {first : JsonReader α} {second : α → JsonReader β} {bound : Nat}
    {text mid : List Char} {a : α} (h : first bound text = .ok (a, mid)) :
    (first >>= second) bound text = second a bound mid := by
  rw [bind_apply, h]
  rfl

lemma look_bind {second : Option Char → JsonReader β} (bound : Nat) (text : List Char) :
    (look >>= second) bound text = second text.head? bound text := rfl

lemma advance_bind {second : Unit → JsonReader β} (bound : Nat) (c : Char) (text : List Char) :
    (advance >>= second) bound (c :: text) = second () bound text := rfl

lemma Extends.pure (a : α) : Extends (Pure.pure a : JsonReader α) := by
  intro bound text b left h
  simp only [pure_apply, Except.ok.injEq, Prod.mk.injEq] at h
  obtain ⟨rfl, rfl⟩ := h
  exact ⟨List.suffix_refl _, fun _ _ _ => rfl⟩

lemma Extends.refuse (e : JsonError) : Extends (refuse e : JsonReader α) := by
  intro bound text a left h
  simp [JsonReader.refuse] at h

lemma Extends.bind {first : JsonReader α} {second : α → JsonReader β} (hf : Extends first)
    (hs : ∀ a, Extends (second a)) : Extends (first >>= second) := by
  intro bound text b left h
  obtain ⟨a, mid, ran, went⟩ := bind_eq_ok h
  obtain ⟨front, more⟩ := hf ran
  obtain ⟨back, further⟩ := hs a went
  refine ⟨back.trans front, fun bound' rest stops => ?_⟩
  rw [bind_of_ok (more bound' rest stops), further bound' rest stops]

lemma Extends.ite {p : Prop} [Decidable p] {yes no : JsonReader α} (hy : Extends yes)
    (hn : Extends no) : Extends (if p then yes else no) := by
  split
  · exact hy
  · exact hn

/-! ## Digits -/

lemma takeWhile_isDigit_append {rest : List Char} (stops : Stops rest) (text : List Char) :
    (text ++ rest).takeWhile Char.isDigit = text.takeWhile Char.isDigit := by
  induction text with
  | nil =>
    cases rest with
    | nil => rfl
    | cons c rest => simp [(stops c rfl).1]
  | cons c text ih => simp [List.takeWhile_cons, ih]

lemma dropWhile_isDigit_append {rest : List Char} (stops : Stops rest) (text : List Char) :
    (text ++ rest).dropWhile Char.isDigit = text.dropWhile Char.isDigit ++ rest := by
  induction text with
  | nil =>
    cases rest with
    | nil => rfl
    | cons c rest => simp [(stops c rfl).1]
  | cons c text ih =>
    simp only [List.cons_append, List.dropWhile_cons]
    split
    · exact ih
    · rfl

lemma extends_digits : Extends digits := by
  intro bound text ds left h
  simp only [digits, Except.ok.injEq, Prod.mk.injEq] at h
  obtain ⟨rfl, rfl⟩ := h
  refine ⟨List.dropWhile_suffix _, fun bound' rest stops => ?_⟩
  rw [digits, takeWhile_isDigit_append stops, dropWhile_isDigit_append stops]

lemma digit_cons (atEnd : JsonError) (bound : Nat) (c : Char) (text : List Char) :
    digit atEnd bound (c :: text) =
      if c.isDigit then .ok (c, text) else .error .malformed := by
  simp only [digit, look_bind, List.head?_cons]
  split <;> rfl

lemma extends_digit (atEnd : JsonError) : Extends (digit atEnd) := by
  intro bound text d left h
  cases text with
  | nil => simp [digit, look, bind_apply, Except.bind, refuse] at h
  | cons c text =>
    -- A further character is there, so what follows the text is not looked at.
    rw [digit_cons] at h
    split at h
    · rename_i isDigit
      simp only [Except.ok.injEq, Prod.mk.injEq] at h
      obtain ⟨rfl, rfl⟩ := h
      refine ⟨List.suffix_cons _ _, fun bound' rest _ => ?_⟩
      rw [List.cons_append, digit_cons, if_pos isDigit]
    · cases h

lemma extends_someDigits (atEnd : JsonError) : Extends (someDigits atEnd) :=
  (extends_digit atEnd).bind fun _ => extends_digits.bind fun _ => .pure _

lemma extends_wholeDigits (atEnd : JsonError) : Extends (wholeDigits atEnd) :=
  (extends_someDigits atEnd).bind fun _ => .ite (.refuse _) (.pure _)

/-! ## Parts with a mark of their own

A point, a letter or a sign may come next.  Nothing that may follow a numeral is such a mark, so
whether there is one is told by the text alone.
-/

/-- A part of a numeral that goes on past its mark, if the mark is there. -/
lemma extends_marked (isMark : Char → Prop) (marked : Char → JsonReader α)
    (missing : JsonReader α) (apart : ∀ c, isMark c → c = '.' ∨ c = 'e' ∨ c = 'E')
    (hm : ∀ c, Extends (marked c)) (hn : Extends missing) {reader : JsonReader α}
    (with_mark : ∀ bound c text, isMark c → reader bound (c :: text) = marked c bound text)
    (without : ∀ bound text, (∀ c ∈ text.head?, ¬ isMark c) →
      reader bound text = missing bound text) :
    Extends reader := by
  intro bound text a left h
  by_cases mark : ∃ c more, text = c :: more ∧ isMark c
  · obtain ⟨c, more, rfl, mark⟩ := mark
    rw [with_mark _ _ _ mark] at h
    obtain ⟨front, further⟩ := hm c h
    refine ⟨front.trans (List.suffix_cons _ _), fun bound' rest stops => ?_⟩
    rw [List.cons_append, with_mark _ _ _ mark, further bound' rest stops]
  · have none : ∀ c ∈ text.head?, ¬ isMark c := by
      intro c hc marked
      obtain ⟨more, rfl⟩ := List.head?_eq_some_iff.1 hc
      exact mark ⟨c, more, rfl, marked⟩
    rw [without _ _ none] at h
    obtain ⟨front, further⟩ := hn h
    refine ⟨front, fun bound' rest stops => ?_⟩
    rw [without _ _ ?_, further bound' rest stops]
    intro c hc marked
    cases text with
    | nil => rcases apart c marked with rfl | rfl | rfl <;> simpa using stops _ hc
    | cons d text => exact none c hc marked

lemma extends_places (atEnd : JsonError) : Extends (places atEnd) := by
  refine extends_marked (· = '.') (fun _ => do
    let all ← someDigits atEnd
    pure (some all)) (pure none) (fun c h => .inl h)
    (fun _ => (extends_someDigits atEnd).bind fun _ => .pure _) (.pure _) ?_ ?_
  · rintro bound c text rfl
    rfl
  · intro bound text none
    have no : text.head? ≠ some '.' := fun h => none _ h rfl
    simp [places, look, bind_apply, Except.bind, no]

/-- The digits of an exponent, after its sign. -/
lemma extends_size (atEnd : JsonError) (sign : Option Char) :
    Extends (do
      let all ← someDigits atEnd
      let size : Int := Nat.ofDigitChars 10 all 0
      pure (if sign = some '-' then -size else size)) :=
  (extends_someDigits atEnd).bind fun _ => .pure _

lemma extends_signedExponent (atEnd : JsonError) : Extends (signedExponent atEnd) := by
  intro bound text e left h
  rw [signedExponent, look_bind] at h
  cases text with
  | nil => simp [bind_apply, Except.bind, someDigits, digit, look, refuse] at h
  | cons c text =>
    by_cases sign : some c = some '+' ∨ some c = some '-'
    · rw [List.head?_cons, if_pos sign, advance_bind] at h
      obtain ⟨front, further⟩ := extends_size atEnd _ h
      refine ⟨front.trans (List.suffix_cons _ _), fun bound' rest stops => ?_⟩
      rw [List.cons_append, signedExponent, look_bind, List.head?_cons, if_pos sign, advance_bind]
      exact further bound' rest stops
    · rw [List.head?_cons, if_neg sign] at h
      obtain ⟨front, further⟩ := extends_size atEnd _ h
      refine ⟨front, fun bound' rest stops => ?_⟩
      rw [List.cons_append, signedExponent, look_bind, List.head?_cons, if_neg sign]
      exact further bound' rest stops

lemma extends_exponent (atEnd : JsonError) : Extends (exponent atEnd) := by
  refine extends_marked (fun c => c = 'e' ∨ c = 'E') (fun _ => do
    let e ← signedExponent atEnd
    pure (some e)) (pure none) (fun c h => .inr h)
    (fun _ => (extends_signedExponent atEnd).bind fun _ => .pure _) (.pure _) ?_ ?_
  · rintro bound c text (rfl | rfl) <;> rfl
  · intro bound text none
    have no : ¬ (text.head? = some 'e' ∨ text.head? = some 'E') := by
      rintro (h | h)
      · exact none _ h (.inl rfl)
      · exact none _ h (.inr rfl)
    simp [exponent, look, bind_apply, Except.bind, no]

/-! ## Numerals and numbers -/

lemma extends_numeralParts (atEnd : JsonError) : Extends (numeralParts atEnd) :=
  (extends_wholeDigits atEnd).bind fun _ => (extends_places atEnd).bind fun _ =>
    (extends_exponent atEnd).bind fun _ => .pure _

/-- **A numeral ends where it would end alone.** -/
theorem extends_numeral (negative : Bool) : Extends (numeral negative) := by
  refine (extends_numeralParts .truncated).bind fun parts => ?_
  cases Numeral.ofParts? negative parts with
  | none => exact .refuse _
  | some value => exact .pure _

/-- A reader that refuses every text. -/
def Refuses (reader : JsonReader α) : Prop := ∀ bound text p, reader bound text ≠ .ok p

lemma Refuses.bind {first : JsonReader α} {second : α → JsonReader β} (h : ∀ a, Refuses (second a)) :
    Refuses (first >>= second) := by
  rintro bound text ⟨b, left⟩ ran
  obtain ⟨a, mid, -, went⟩ := bind_eq_ok ran
  exact h a _ _ _ went

lemma refuses_refuse (e : JsonError) : Refuses (refuse e : JsonReader α) := by
  intro bound text p h
  simp [refuse] at h

lemma refuses_wrongKind : Refuses (wrongKind : JsonReader α) := by
  refine .bind fun c => ?_
  split
  · exact .bind fun _ => refuses_refuse _
  · split
    all_goals first
      | exact refuses_refuse _
      | exact .bind fun _ => .bind fun _ => refuses_refuse _

lemma isBlank_of_isDigit {c : Char} (h : c.isDigit = true) : isBlank c = false := by
  rw [isBlank]
  by_contra blank
  simp only [Bool.not_eq_false, Bool.or_eq_true, decide_eq_true_eq] at blank
  rcases blank with ((rfl | rfl) | rfl) | rfl <;> simp [Char.isDigit] at h

lemma token_of_nonblank {c : Char} (h : isBlank c = false) (bound : Nat) (text : List Char) :
    token bound (c :: text) = .ok (c, c :: text) := by
  simp [token, h]

/-- A numeral with its sign ends where it would end alone, if it starts the text. -/
lemma anyNumeral_append {bound : Nat} {c : Char} {text left : List Char} {n : Numeral}
    (visible : isBlank c = false) (h : anyNumeral bound (c :: text) = .ok (n, left)) :
    left <:+ c :: text ∧ ∀ bound' rest, Stops rest →
      anyNumeral bound' (c :: text ++ rest) = .ok (n, left ++ rest) := by
  rw [anyNumeral, bind_of_ok (token_of_nonblank visible _ _)] at h
  simp only [List.cons_append, anyNumeral, bind_of_ok (token_of_nonblank visible _ _)]
  split at h
  · rename_i minus
    rw [advance_bind] at h
    obtain ⟨front, further⟩ := extends_numeral true h
    refine ⟨front.trans (List.suffix_cons _ _), fun bound' rest stops => ?_⟩
    rw [if_pos minus, advance_bind, further bound' rest stops]
  · rename_i plus
    split at h
    · rename_i digit
      obtain ⟨front, further⟩ := extends_numeral false h
      refine ⟨front, fun bound' rest stops => ?_⟩
      rw [if_neg plus, if_pos digit, ← List.cons_append, further bound' rest stops]
    · exact absurd h (refuses_wrongKind _ _ _)

/-- The number of a numeral. -/
lemma number_eq_ok_iff {bound : Nat} {text left : List Char} {a : Number} :
    number bound text = .ok (a, left) ↔
      ∃ n, anyNumeral bound text = .ok (n, left) ∧
        (match n with | .integer n => Number.ofInt n | .real a => a) = a := by
  rw [number, bind_apply]
  cases anyNumeral bound text with
  | error e => simp [Except.bind]
  | ok p =>
    obtain ⟨n, rest⟩ := p
    cases n <;> simp [Except.bind, pure_apply, and_comm]

/-! ### The texts of numbers -/

lemma isDigit_of_mem_dropZeros {coefficient : Nat} {exponent : Int} {c : Char}
    (h : c ∈ (Number.dropZeros coefficient exponent).1) : c.isDigit = true := by
  rw [Number.dropZeros, List.mem_reverse] at h
  exact isDigit_of_mem_toDigits (List.mem_reverse.1 ((List.dropWhile_suffix _).subset h))

lemma isDigit_of_mem_shortest {q : Rat} {c : Char} (h : c ∈ (Number.shortest q).1) :
    c.isDigit = true := by
  rw [Number.shortest] at h
  revert h
  generalize found : List.findSome? _ _ = digits
  intro h
  cases digits with
  | none => simp_all
  | some digits =>
    obtain ⟨count, -, grid⟩ := List.exists_of_findSome?_eq_some found
    obtain ⟨coefficient, -, rfl⟩ := Option.map_eq_some_iff.1 grid
    exact isDigit_of_mem_dropZeros h

/-- The characters of a text that has no blanks. -/
lemma isBlank_of_mem {text : List Char} (h : text.all fun c => !isBlank c) {c : Char}
    (mem : c ∈ text) : isBlank c = false := by
  simpa using List.all_eq_true.mp h c mem

lemma isBlank_of_mem_positional {keepsPoint : Bool} {digits : List Char} {places : Int} {c : Char}
    (visible : ∀ d ∈ digits, isBlank d = false) (h : c ∈ Number.positional keepsPoint digits places) :
    isBlank c = false := by
  rw [Number.positional] at h
  split at h
  · simp only [List.mem_append, List.mem_cons, List.not_mem_nil, or_false, List.mem_replicate] at h
    rcases h with ((rfl | rfl) | ⟨-, rfl⟩) | h
    · rfl
    · rfl
    · rfl
    · exact visible c h
  · simp only [List.mem_append, List.mem_replicate] at h
    rcases h with (h | ⟨-, rfl⟩) | h
    · exact visible c (List.mem_of_mem_take h)
    · rfl
    · split at h
      · rcases List.mem_cons.1 h with rfl | h
        · rfl
        · exact visible c (List.mem_of_mem_drop h)
      · split at h
        · exact isBlank_of_mem rfl h
        · cases h

lemma isBlank_of_mem_scientific {digits : List Char} {exponent : Int} {c : Char}
    (visible : ∀ d ∈ digits, isBlank d = false) (h : c ∈ Number.scientific digits exponent) :
    isBlank c = false := by
  simp only [Number.scientific, List.mem_append] at h
  rcases h with (((h | h) | h) | h) | h
  · exact visible c (List.mem_of_mem_take h)
  · split at h
    · cases h
    · rcases List.mem_cons.1 h with rfl | h
      · rfl
      · exact visible c (List.mem_of_mem_drop h)
  · exact isBlank_of_mem rfl h
  · split at h <;> exact isBlank_of_mem rfl h
  · exact isBlank_of_isDigit (isDigit_of_mem_toDigits h)

/-- No character of a number is passed over. -/
lemma isBlank_of_mem_numberText {a : Number} {c : Char}
    (h : c ∈ (JsonValue.numberText a).toList) : isBlank c = false := by
  rw [JsonValue.numberText, Number.write?] at h
  cases value : a.toRat? with
  | none =>
    simp only [value, Option.map_none, Option.getD_none] at h
    exact isBlank_of_mem rfl h
  | some q =>
    simp only [value, Option.map_some, Option.getD_some] at h
    have sign : ∀ d ∈ (if a.isNegative then ['-'] else []), isBlank d = false := by
      split
      · exact fun d => isBlank_of_mem rfl
      · exact fun d => isBlank_of_mem rfl
    split at h
    · rw [String.toList_ofList, List.mem_append] at h
      exact h.elim (sign c) (isBlank_of_mem_positional fun d => isBlank_of_mem rfl)
    · have digits : ∀ d ∈ (Number.shortest q.abs).1, isBlank d = false := fun d hd =>
        isBlank_of_isDigit (isDigit_of_mem_shortest hd)
      rw [String.toList_ofList, List.mem_append] at h
      refine h.elim (sign c) fun h => ?_
      split at h
      · exact isBlank_of_mem_positional digits h
      · exact isBlank_of_mem_scientific digits h

/-- **A number that is read back alone is read back inside a text.** -/
theorem number_append {a : Number} (h : readJson number (JsonValue.numberText a) = .ok a)
    {rest : List Char} (stops : Stops rest) (bound : Nat) :
    number bound ((JsonValue.numberText a).toList ++ rest) = .ok (a, rest) := by
  have visible := fun c => @isBlank_of_mem_numberText a c
  rw [readJson] at h
  split at h
  · cases h
  · rename_i b left ran
    split at h
    · rename_i blank
      cases h
      obtain ⟨n, numeral, value⟩ := number_eq_ok_iff.1 ran
      cases shape : (JsonValue.numberText a).toList with
      | nil => simp [shape, anyNumeral, token, bind_apply, Except.bind] at numeral
      | cons c more =>
        rw [shape] at numeral visible
        obtain ⟨front, further⟩ := anyNumeral_append (visible c (by simp)) numeral
        have nothing : left = [] := by
          refine List.eq_nil_iff_forall_not_mem.2 fun d hd => ?_
          have := visible d (front.subset hd)
          simp [List.all_eq_true.1 blank d hd] at this
        rw [number_eq_ok_iff]
        exact ⟨n, by rw [further bound rest stops, nothing, List.nil_append], value⟩
    · cases h

/-! ## Integers -/

lemma digitChar_ne_zero : ∀ n < 10, 0 < n → n.digitChar ≠ '0' := by decide

lemma head?_toDigits_ne_zero {n : Nat} (h : 0 < n) : (Nat.toDigits 10 n).head? ≠ some '0' := by
  induction n using Nat.strongRecOn with
  | ind n ih =>
    by_cases small : n < 10
    · rw [Nat.toDigits_of_lt_base small, List.head?_cons]
      exact fun same => digitChar_ne_zero n small h (Option.some.inj same)
    · have front := ih (n / 10) (by omega) (by omega)
      obtain ⟨c, digits, shape, -⟩ := toDigits_eq_cons (n / 10)
      rw [Nat.toDigits_of_base_le (by decide) (by omega), shape]
      simpa [shape] using front

lemma le_ofDigitChars (digits : List Char) (start : Nat) :
    start ≤ Nat.ofDigitChars 10 digits start := by
  induction digits generalizing start with
  | nil => exact Nat.le_refl _
  | cons c digits ih =>
    rw [Nat.ofDigitChars_cons]
    exact Nat.le_trans (by omega) (ih _)

/-- All digits find room if their number does. -/
lemma absorb_of_le {digits : List Char} {start : Nat}
    (h : Nat.ofDigitChars 10 digits start ≤ Numeral.greatestSignificand) :
    Numeral.absorb start digits = (Nat.ofDigitChars 10 digits start, 0) := by
  induction digits generalizing start with
  | nil => rfl
  | cons c digits ih =>
    rw [Nat.ofDigitChars_cons, Nat.mul_comm] at h
    have room := Nat.le_trans (le_ofDigitChars digits _) h
    simp only [Numeral.absorb]
    rw [if_neg (by omega), ih h, Nat.ofDigitChars_cons, Nat.mul_comm]

lemma wholeDigits_toDigits (atEnd : JsonError) (n bound : Nat) :
    wholeDigits atEnd bound (Nat.toDigits 10 n) = .ok (Nat.toDigits 10 n, []) := by
  obtain ⟨c, digits, shape, isDigit⟩ := toDigits_eq_cons n
  have all : ∀ d ∈ digits, d.isDigit := fun d hd =>
    isDigit_of_mem_toDigits (n := n) (shape ▸ List.mem_cons_of_mem _ hd)
  have taken : someDigits atEnd bound (c :: digits) = .ok (c :: digits, []) := by
    have first : digit atEnd bound (c :: digits) = .ok (c, digits) := by
      rw [digit_cons, if_pos isDigit]
    rw [someDigits, bind_of_ok first]
    simp [JsonReader.digits, bind_apply, pure_apply, Except.bind,
      List.takeWhile_eq_self_iff.2 all, List.dropWhile_eq_nil_iff.2 all]
  rw [wholeDigits, shape, bind_of_ok taken, if_neg]
  · rfl
  · rintro ⟨leading, more⟩
    rcases Nat.eq_zero_or_pos n with rfl | pos
    · exact more (shape.symm.trans rfl)
    · exact head?_toDigits_ne_zero pos (shape ▸ leading)

/-- The parts of a numeral without a point and an exponent. -/
lemma numeralParts_toDigits (atEnd : JsonError) (n : Nat) {rest : List Char} (stops : Stops rest)
    (bound : Nat) :
    numeralParts atEnd bound (Nat.toDigits 10 n ++ rest) =
      .ok (⟨Nat.toDigits 10 n, none, none⟩, rest) := by
  have alone : numeralParts atEnd bound (Nat.toDigits 10 n) =
      .ok (⟨Nat.toDigits 10 n, none, none⟩, []) := by
    rw [numeralParts, bind_of_ok (wholeDigits_toDigits _ _ _)]
    rfl
  exact (extends_numeralParts atEnd alone).2 bound rest stops

/-- **An integer is read back,** as long as it has room. -/
theorem anyNumeral_toString {n : Int} (low : -9223372036854775808 ≤ n)
    (high : n ≤ Numeral.greatestSignificand) {rest : List Char} (stops : Stops rest) (bound : Nat) :
    anyNumeral bound ((toString n).toList ++ rest) = .ok (.integer n, rest) := by
  have room : n.natAbs ≤ Numeral.greatestSignificand := by
    simp only [Numeral.greatestSignificand] at high ⊢
    omega
  have absorbed : Numeral.absorb 0 (Nat.toDigits 10 n.natAbs) = (n.natAbs, 0) := by
    have := @absorb_of_le (Nat.toDigits 10 n.natAbs) 0
    rw [Nat.ofDigitChars_ten_toDigits] at this
    exact this room
  obtain ⟨c, digits, shape, isDigit⟩ := toDigits_eq_cons n.natAbs
  rw [toList_toString_int]
  by_cases negative : n < 0
  · rw [if_pos negative, anyNumeral, List.append_assoc, List.singleton_append,
      bind_of_ok (token_of_nonblank rfl _ _), if_pos rfl, advance_bind, numeral,
      bind_of_ok (numeralParts_toDigits _ _ stops _)]
    have value : Numeral.ofParts? true ⟨Nat.toDigits 10 n.natAbs, none, none⟩ =
        some (.integer n) := by
      have back : -(n.natAbs : Int) = n := by omega
      simp only [Numeral.ofParts?, absorbed]
      rw [if_pos (by simp), if_neg (by simp), if_pos (by omega), back]
    rw [value]
    rfl
  · have visible : isBlank c = false := isBlank_of_isDigit isDigit
    have plus : c ≠ '-' := by
      rintro rfl
      simp [Char.isDigit] at isDigit
    rw [if_neg negative, List.nil_append, shape, List.cons_append, anyNumeral,
      bind_of_ok (token_of_nonblank visible _ _), if_neg plus, if_pos isDigit, numeral,
      ← List.cons_append, ← shape, bind_of_ok (numeralParts_toDigits _ _ stops _)]
    have value : Numeral.ofParts? false ⟨Nat.toDigits 10 n.natAbs, none, none⟩ =
        some (.integer n) := by
      have back : (n.natAbs : Int) = n := by omega
      simp only [Numeral.ofParts?, absorbed]
      rw [if_pos (by simp), if_pos (by simp), back]
    rw [value]
    rfl

end JsonReader

end PanelPuzzle
