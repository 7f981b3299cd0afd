import PanelPuzzle.Json.Content
/-!
# Variants in JSON

One of several variants: its name alone if it holds nothing, or a record with that name as its only
field.

* `Variant` — what a variant holds.
* `JsonReader.variant`, `JsonReader.choice` — one of several variants, or of several values.
-/

namespace PanelPuzzle

/-- What a variant holds. -/
inductive Variant (α : Type) where
  /-- Nothing. -/
  | plain (a : α)
  /-- A value. -/
  | holding (reader : JsonReader α)

namespace JsonReader

/-- The variant with a given name. -/
def variantOf {α : Type} (variants : List (String × Variant α)) (name : String) :
    JsonReader (Variant α) :=
  match variants.find? (·.1 = name) with
  | some (_, v) => pure v
  | none => refuse .mismatch

/-- What a variant holds, written out. -/
def held {α : Type} : Variant α → JsonReader α
  | .plain a => do
    null
    pure a
  | .holding reader => reader

/-- A variant that holds nothing, by its name alone. -/
def named {α : Type} : Variant α → JsonReader α
  | .plain a => pure a
  | .holding _ => refuse .mismatch

/-- **One of several variants,** by name.  What stands where the name should be is not looked at
any further: unless it is a text, there is no JSON. -/
def variant {α : Type} (variants : List (String × Variant α)) : JsonReader α := do
  let c ← token
  if c = '"' then
    advance
    let name ← quoted true
    named (← variantOf variants name)
  else if c = '\x7b' then
    advance
    expect '"'
    let name ← quoted true
    let v ← variantOf variants name
    expect ':'
    let a ← held v
    expect '\x7d'
    pure a
  else refuse .malformed

/-- One of several values that hold nothing. -/
def choice {α : Type} (values : List α) (name : α → String) : JsonReader α :=
  variant (values.map fun a => (name a, .plain a))

end JsonReader

end PanelPuzzle
