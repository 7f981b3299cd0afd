import PanelPuzzle.Json.Content
import PanelPuzzle.Json.Skipping
/-!
# Records in JSON

A record is given by the names of its fields, or as a list of their values in order.  Among named
fields, unknown ones are passed over, none may come twice, and only those may be missing that are
allowed to.

* `Field` — a field and how its value goes into the record.
* `JsonReader.record` — a record with given fields.
-/

namespace PanelPuzzle

/-- **A field of a record:** its name, whether it may be missing, and the reading of its value into
the record. -/
structure Field (α : Type) where
  name : String
  mayMiss : Bool
  read : α → JsonReader α

namespace Field

/-- A field that has to be there. -/
def required {α β : Type} (name : String) (reader : JsonReader β) (put : β → α → α) : Field α where
  name
  mayMiss := false
  read a := do
    let b ← reader
    pure (put b a)

/-- A field whose value may be empty, and which may be missing as well. -/
def optional {α β : Type} (name : String) (reader : JsonReader β) (put : Option β → α → α) :
    Field α where
  name
  mayMiss := true
  read a := do
    let b ← reader.optional
    pure (put b a)

end Field

namespace JsonReader

/-- Whether another field follows in a record.  What stands before its name is passed over with the
opening quote, the closing brace is left in place. -/
def moreFields (isFirst : Bool) : JsonReader Bool := do
  let c ← token
  if c = '\x7d' then pure false
  else
    if !isFirst then expect ','
    expect '"'
    pure true

/-- The fields of a record and its closing brace.  The names of the fields that were read are
kept. -/
def fieldsByName {α : Type} (fields : List (Field α)) :
    Nat → Bool → List String → α → JsonReader α
  | 0, _, _, _ => refuse .truncated
  | steps + 1, isFirst, found, a => do
    if ← moreFields isFirst then
      let name ← quoted true
      match fields.find? (·.name = name) with
      | none =>
        expect ':'
        skip
        fieldsByName fields steps false found a
      | some field =>
        if found.contains name then refuse .mismatch
        else
          expect ':'
          let a ← field.read a
          fieldsByName fields steps false (name :: found) a
    else if fields.all fun field => field.mayMiss || found.contains field.name then
      advance
      pure a
    else refuse .mismatch

/-- The values of fields in order. -/
def fieldsInOrder {α : Type} : List (Field α) → Bool → α → JsonReader α
  | [], _, a => pure a
  | field :: fields, isFirst, a => do
    if ← moreItems isFirst then
      let a ← field.read a
      fieldsInOrder fields false a
    else refuse .mismatch

/-- **A record.**  The fields are read into a blank one. -/
def record {α : Type} (fields : List (Field α)) (blank : α) : JsonReader α := do
  let c ← token
  if c = '\x7b' then
    advance
    fieldsByName fields ((← read) + 1) true [] blank
  else if c = '[' then
    advance
    let a ← fieldsInOrder fields true blank
    expect ']'
    pure a
  else wrongKind

end JsonReader

end PanelPuzzle
