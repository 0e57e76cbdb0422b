import Placard.Number.Fixed
import Placard.Number.Reading

/-!
# Colours

Host configurations write a colour with its opacity as `#AARRGGBB`. `cssColor` gives the colour as
CSS writes it; a colour in any other form is left to CSS as it is.

A pair of characters counts as a number of base sixteen whenever a single number can be read from
it, so a pair may also be one digit with a sign or a blank.
-/

namespace Placard.Host

open Placard.Text Placard.Number

/-- The number that a pair of characters writes. -/
def pair? (a b : Char) : Option Int :=
  signedDigits? 16 (asciiDigits (trimBy isWhiteSpace [a, b]))

/-- The parts of a colour: its opacity, of 255, then red, green and blue. -/
def channels? : List Char → Option (Int × Int × Int × Int)
  | ['#', a, a', r, r', g, g', b, b'] => do
    return (← pair? a a', ← pair? r r', ← pair? g g', ← pair? b b')
  | _ => none

/-- The opacity as a share of one, with two places. -/
def opacityText (alpha : Int) : List Char :=
  twoPlaces (.ofRatio (decide (alpha < 0)) alpha.natAbs 255)

/-- The colour in CSS. -/
def cssColor (s : String) : String :=
  match channels? s.toList with
  | some (alpha, red, green, blue) =>
    String.ofList ("rgba(".toList ++ intText red ++ [',', ' '] ++ intText green ++ [',', ' '] ++
      intText blue ++ [',', ' '] ++ opacityText alpha ++ [')'])
  | none => s

end Placard.Host
