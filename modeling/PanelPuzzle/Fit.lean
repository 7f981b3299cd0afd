import PanelPuzzle.Element
/-!
# Plugs and sockets

Which plug fits a socket, and which two half circles together fill a round one.  Sizes are
compared with a tolerance.
-/

namespace PanelPuzzle.Comparison

/-- Whether a plug of one size fits a socket of another. -/
def fitsSize (c : Comparison) (socketWidth socketHeight width height : Number) : Bool :=
  match c with
  | equal | strict =>
    (socketWidth - width).abs.lt tolerance && (socketHeight - height).abs.lt tolerance
  | greaterOrEqual =>
    (socketWidth - tolerance).lt width && (socketHeight - tolerance).lt height
  | lessOrEqual =>
    width.lt (socketWidth + tolerance) && height.lt (socketHeight + tolerance)

/-- Whether a plug fits a socket. -/
def fits (c : Comparison) (socket plug : Element) : Bool :=
  socket.shape.accepts plug.shape &&
    c.fitsSize socket.width socket.height plug.width plug.height &&
    (c ≠ strict || socket.color.primary = plug.color.primary)

/-- The size of the circle that two halves make: a left and a right one, or an upper and a lower
one, whose common side has the same length. -/
def joined? (a b : Element) : Option (Number × Number) :=
  match a.shape, b.shape with
  | .semicircleLeft, .semicircleRight | .semicircleRight, .semicircleLeft =>
    if tolerance.lt (a.height - b.height).abs then none else some (a.width + b.width, a.height)
  | .semicircleTop, .semicircleBottom | .semicircleBottom, .semicircleTop =>
    if tolerance.lt (a.width - b.width).abs then none else some (a.width, a.height + b.height)
  | _, _ => none

/-- Whether two halves fill a round socket. -/
def fitsPair (c : Comparison) (socket a b : Element) : Bool :=
  socket.shape = .circle &&
    match joined? a b with
    | none => false
    | some (width, height) =>
      c.fitsSize socket.width socket.height width height &&
        (c ≠ strict ||
          (a.color.primary = socket.color.primary && b.color.primary = socket.color.primary))

end PanelPuzzle.Comparison
