import PanelPuzzle.Making.Remote
/-!
# Wrong sizes

An element starts with another size than it should have, and a button takes it through a cycle of
sizes.  The player has to find the size at which plug and socket fit.
-/

namespace PanelPuzzle.Cover

/-- The sizes of the cycle, up and down. -/
def sizeCycle : List Number := [1, 1.25, 1.5, 1.75, 2, 1.75, 1.5, 1.25]

/-- Whether two sizes count as equal. -/
def closeTo (a b : Number) : Bool := (a - b).abs.lt tolerance

/-- The sizes of the cycle other than that of an element with which it stays inside its cells,
each of them once. -/
def wrongSizes (e : Element) (r : Rect) : List Number :=
  sizeCycle.foldl (fun sizes size =>
    let cells := e.shape.footprint size size
    if closeTo size e.width || sizes.contains size then sizes
    else if cells.1 ≤ r.w ∧ cells.2 ≤ r.h then sizes ++ [size]
    else sizes) []

/-- Whether a coverable may start with a wrong size: a plug or a socket that is as high as wide,
has a size of the cycle and room for another one. -/
def canObscureSize (d : Draft) (target : Coverable) : Bool :=
  !target.sizeObscured && (target.role = .plug || target.role = .socket) &&
    match target.source.bind fun source => d.elements[source]? with
    | none => false
    | some e =>
      closeTo e.width e.height && sizeCycle.any (closeTo · e.width) &&
        wrongSizes e target.footprint ≠ []

/-- Gives an element a wrong size, if there is room for the button. -/
def sizeObscure (target : Nat) : Making Bool := do
  let d ← Making.draft
  match d.coverables[target]?, d.sourceOf? target with
  | some c, some (source, e) =>
    match ← Draws.choose (wrongSizes e c.footprint) with
    | none => pure false
    | some size =>
      match ← Remote.addButton (.size e.id) with
      | none => pure false
      | some _ =>
        Making.modifyElement source fun e =>
          { e with width := size, height := size }.centered c.footprint
        Making.modifyDraft (·.modifyCoverable target fun c => { c with sizeObscured := true })
        pure true
  | _, _ => pure false

end PanelPuzzle.Cover
