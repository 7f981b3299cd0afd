/-!
# Colors and themes

The numbered colors of elements and the named themes of panels.
-/

namespace PanelPuzzle

/-- The name of a color and the value that draws it. -/
structure ColorEntry where
  name : String
  value : String
  deriving DecidableEq

namespace Palette

/-- The colors; the place of a color in this list is its number in a puzzle. -/
def colors : List ColorEntry :=
  [⟨"gray", "#9a9996"⟩, ⟨"red", "#e01b24"⟩, ⟨"orange", "#ff7800"⟩, ⟨"yellow", "#f6d32d"⟩,
    ⟨"green", "#33d17a"⟩, ⟨"teal", "#2190a4"⟩, ⟨"blue", "#3584e4"⟩, ⟨"purple", "#9141ac"⟩,
    ⟨"brown", "#986a44"⟩, ⟨"white", "#ffffff"⟩]

/-- The entry of a color number. -/
def color? (number : Nat) : Option ColorEntry := colors[number]?

/-- The color themes of panels. -/
def themes : List String :=
  ["blue", "red", "green", "purple", "orange", "teal", "pink", "gold"]

/-- The color of tiles that must not give away what they hide. -/
def neutral : UInt8 := 0

end Palette

end PanelPuzzle
