import Placard.Number.Double
import Placard.Text.Digit

/-!
# The shortest text of a double

* `shortestDigits`: the fewest decimal digits that read back as the same number, and of those the
  nearest to it;
* `numberText`: those digits as text. Positions are written out for exponents from -4 to 15, with a
  decimal point always; others get an exponent of at least two digits.
-/

namespace Placard.Number

open Placard.Text

/-- The fraction `num / den` times `10 ^ e`. -/
def timesTenPow (num den : Nat) (e : Int) : Nat × Nat :=
  (num * Nat.pow 10 e.toNat, den * Nat.pow 10 (-e).toNat)

/-- The greatest `e` with `10 ^ e ≤ num / den`, for a positive fraction. -/
def floorLog10 (num den : Nat) : Int :=
  let e : Int := ((natText num).length : Int) - ((natText den).length : Int)
  let p := timesTenPow num den (-e)
  if p.2 ≤ p.1 then e else e - 1

/-- The reals that round to `mantissa * 2 ^ exponent`: their ends, in quarters of the last binary
place, and whether the ends belong to them. -/
structure Neighbourhood where
  low : Nat
  high : Nat
  closed : Bool

/-- The reals that round to a positive double. Below a power of two the spacing halves. -/
def Neighbourhood.of (m : Nat) (e : Int) : Neighbourhood :=
  { low := if m = Nat.pow 2 52 && e != Double.minExponent then 4 * m - 1 else 4 * m - 2
    high := 4 * m + 2
    closed := m % 2 == 0 }

/-- Whether `n * 10 ^ j` rounds to the double whose last binary place is `2 ^ e`. -/
def Neighbourhood.holds (w : Neighbourhood) (e : Int) (n : Nat) (j : Int) : Bool :=
  let value := n * Nat.pow 10 j.toNat * Nat.pow 2 (2 - e).toNat
  let unit := Nat.pow 10 (-j).toNat * Nat.pow 2 (e - 2).toNat
  if w.closed then w.low * unit ≤ value && value ≤ w.high * unit
  else w.low * unit < value && value < w.high * unit

/-- The grid point of step `10 ^ j` that rounds to the double and is nearest to it, if any; of two
equally near ones, the even one. -/
def gridPoint? (m : Nat) (e : Int) (j : Int) : Option Nat :=
  let w := Neighbourhood.of m e
  let (num, den) := timesTenPow (m * Nat.pow 2 e.toNat) (Nat.pow 2 (-e).toNat) (-j)
  let below := num / den
  let near := roundDiv num den
  let far := if near = below then below + 1 else below
  if w.holds e near j then some near
  else if w.holds e far j then some far
  else none

/-- The grid point of the coarsest grid that has one, from `digits` digits on. -/
def coarsest (m : Nat) (e : Int) (top : Int) : Nat → Nat → Nat × Int
  | 0, _ => (m * Nat.pow 2 e.toNat, 0)
  | steps + 1, digits =>
    let j := top + 1 - digits
    match gridPoint? m e j with
    | some n => (n, j)
    | none => coarsest m e top steps (digits + 1)

/-- The fewest digits that read back as the positive double `m * 2 ^ e`, as a whole number, and the
power of ten of its last digit. Seventeen digits always suffice. -/
def shortestDigits (m : Nat) (e : Int) : Nat × Int :=
  coarsest m e (floorLog10 (m * Nat.pow 2 e.toNat) (Nat.pow 2 (-e).toNat)) 18 1

/-- Digits without the zeros at their end. -/
def withoutTrailingZeros (ds : List Nat) : List Nat :=
  (ds.reverse.dropWhile (· == 0)).reverse

/-- The positional text of digits whose first one stands for `10 ^ top`. -/
def positional (ds : List Nat) (top : Int) : List Char :=
  if top < 0 then
    '0' :: '.' :: List.replicate ((-top).toNat - 1) '0' ++ ds.map digitChar
  else
    let whole := ds.take (top.toNat + 1)
    let rest := ds.drop (top.toNat + 1)
    let padding := List.replicate (top.toNat + 1 - whole.length) '0'
    whole.map digitChar ++ padding ++ '.' :: (if rest.isEmpty then ['0'] else rest.map digitChar)

/-- The text with an exponent of digits whose first one stands for `10 ^ top`. -/
def withExponent (ds : List Nat) (top : Int) : List Char :=
  let mantissa :=
    match ds with
    | [] => ['0']
    | [d] => [digitChar d]
    | d :: rest => digitChar d :: '.' :: rest.map digitChar
  let sign := if top < 0 then '-' else '+'
  mantissa ++ 'e' :: sign :: paddedText 2 top.natAbs

/-- The text of a double: the fewest digits that read back. -/
def numberText : Double → List Char
  | .nan => ['n', 'a', 'n']
  | .infinite s => (if s then ['-'] else []) ++ ['i', 'n', 'f']
  | .finite s m e =>
    let sign := if s then ['-'] else []
    if m = 0 then sign ++ ['0', '.', '0']
    else
      let (n, j) := shortestDigits m e
      let ds := digitsOf n
      let top : Int := j + ds.length - 1
      let body := withoutTrailingZeros ds
      sign ++ (if -4 ≤ top && top ≤ 15 then positional body top else withExponent body top)

end Placard.Number
