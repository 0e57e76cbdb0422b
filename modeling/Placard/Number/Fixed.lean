import Placard.Number.Shortest

/-!
# Two decimal places, and whole numbers

Pixel sizes and opacities are written with exactly two decimal places, rounded from the exact value
with a half going to the even neighbour. Limits of number inputs drop a fraction of zero.
-/

namespace Placard.Number

open Placard.Text

/-- The text of a number of hundredths. -/
def hundredthsText (n : Nat) : List Char :=
  natText (n / 100) ++ '.' :: paddedText 2 (n % 100)

/-- The text with two decimal places. -/
def twoPlaces : Double → List Char
  | .finite s m e =>
    (if s then ['-'] else []) ++
      hundredthsText (roundDiv (100 * (m * Nat.pow 2 e.toNat)) (Nat.pow 2 (-e).toNat))
  | x => numberText x

/-- The text of a number, without a fraction when it is whole. -/
def plainText (x : Double) : List Char :=
  match x.toInt? with
  | some i => intText i
  | none => numberText x

end Placard.Number
