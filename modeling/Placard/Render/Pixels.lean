import Placard.Number.Fixed
import Placard.Tag.Basic

/-!
# Lengths in styles

Lengths are written in pixels: whole ones as they are, others with two decimal places.
-/

namespace Placard.Render

open Placard.Text Placard.Number

/-- A whole length. -/
def pixels (n : Int) : String :=
  String.ofList (intText n ++ ['p', 'x'])

/-- A length with two decimal places. -/
def fractionalPixels (x : Double) : String :=
  String.ofList (twoPlaces x ++ ['p', 'x'])

end Placard.Render
