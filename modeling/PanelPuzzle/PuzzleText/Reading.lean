/-!
# Readings with warnings

Reading a puzzle either fails at its first problem or succeeds, and in both cases leaves warnings
about words that it could not interpret.  A `Reading` holds both; readings in sequence keep their
warnings in order.
-/

namespace PanelPuzzle

/-- A word that has no meaning where it stands. -/
structure Unrecognized where
  /-- The id of the element that the word belongs to. -/
  element : String
  /-- The word. -/
  word : String
  deriving DecidableEq

/-- The wording of a warning. -/
def Unrecognized.message (w : Unrecognized) : String :=
  s!"Element {w.element}: unrecognized token \x60{w.word}\x60"

/-- Why a text is not a puzzle. -/
inductive ReadError where
  /-- There is no panel. -/
  | noPanels
  /-- The panel with this number, counted from one, has no color theme. -/
  | noColorTheme (panel : Nat)
  /-- The element has this word where its position should be. -/
  | badPosition (element word : String)
  deriving DecidableEq

/-- The wording of an error. -/
def ReadError.message : ReadError → String
  | noPanels => "Malformed puzzle: no panel section"
  | noColorTheme panel => s!"Malformed puzzle: panel {panel} has no color theme"
  | badPosition element word =>
    s!"Malformed puzzle: element {element} has an invalid position \x60{word}\x60"

/-- The outcome of reading, and the warnings that were collected until then. -/
structure Reading (α : Type) where
  result : Except ReadError α
  warnings : List Unrecognized := []

namespace Reading

/-- A reading that goes on from the result of another one. -/
def bind {α β : Type} (r : Reading α) (next : α → Reading β) : Reading β :=
  match r.result with
  | .error e => ⟨.error e, r.warnings⟩
  | .ok a => ⟨(next a).result, r.warnings ++ (next a).warnings⟩

instance : Monad Reading where
  pure a := ⟨.ok a, []⟩
  bind := bind

/-- A reading that fails. -/
def fail {α : Type} (e : ReadError) : Reading α := ⟨.error e, []⟩

/-- A reading that only warns. -/
def warn (warnings : List Unrecognized) : Reading Unit := ⟨.ok (), warnings⟩

/-- The value of a word, or a default and a warning if the word has none. -/
def recognize {α : Type} (element word : String) (value : Option α) (default : α) : Reading α :=
  match value with
  | some a => pure a
  | none => do
    warn [⟨element, word⟩]
    pure default

/-- The value of a word that may be missing. -/
def optional {α : Type} (element : String) (word : Option String) (read : String → Option α)
    (default : α) : Reading α :=
  match word with
  | none => pure default
  | some word => recognize element word (read word) default

/-- The readings of a list, up to the first that fails. -/
def each {α β : Type} (read : α → Reading β) : List α → Reading (List β)
  | [] => pure []
  | a :: rest => do
    let b ← read a
    let bs ← each read rest
    pure (b :: bs)

end Reading

end PanelPuzzle
