import Placard.Number.Double
import Placard.Text.Blank
import Placard.Text.Case
import Placard.Text.Digit

/-!
# Reading numbers

All number readers share one grammar of ASCII text and differ in what they admit around it:

* `scientific?`: a sign, digits with at most one point, and an exponent;
* `literal?`: that, or a name of an infinity or of no number;
* `looseDouble?` and `looseInt?`: digits of any script, single low lines between digits;
* `strictInt?` and `strictDouble?`: ASCII digits, zeros after a point.

The last four admit white space around the number.
-/

namespace Placard.Number

open Placard.Text

/-- A decimal number as written: `digits * 10 ^ exponent`. -/
structure Scientific where
  negative : Bool
  digits : Nat
  exponent : Int
deriving DecidableEq

/-- The nearest double. Exponents beyond the range of doubles are settled without computing them. -/
def Scientific.toDouble (x : Scientific) : Double :=
  if x.digits = 0 then .zero x.negative
  else
    let top := x.exponent + (natText x.digits).length
    if 400 < top then .infinite x.negative
    else if top < -400 then .zero x.negative
    else
      .ofRatio x.negative (x.digits * Nat.pow 10 x.exponent.toNat)
        (Nat.pow 10 (-x.exponent).toNat)

/-- The leading ASCII digits, and the rest. -/
def spanDigits (cs : List Char) : List Nat × List Char :=
  ((cs.takeWhile isAsciiDigit).filterMap asciiDigit?, cs.dropWhile isAsciiDigit)

/-- A leading sign, and the rest. -/
def spanSign : List Char → Bool × List Char
  | '-' :: cs => (true, cs)
  | '+' :: cs => (false, cs)
  | cs => (false, cs)

/-- The exponent that fills a text: nothing, or a letter, a sign and digits. -/
def exponent? : List Char → Option Int
  | [] => some 0
  | c :: cs =>
    if c = 'e' || c = 'E' then
      let (negative, rest) := spanSign cs
      match spanDigits rest with
      | ([], _) => none
      | (ds, []) => some (Double.signed negative (ofDigits 10 ds))
      | (_, _ :: _) => none
    else none

/-- A sign, digits with at most one point among or around them, and an exponent. -/
def scientific? (cs : List Char) : Option Scientific :=
  let (negative, rest) := spanSign cs
  let (whole, rest) := spanDigits rest
  let (fraction, rest) :=
    match rest with
    | '.' :: more => spanDigits more
    | _ => ([], rest)
  if whole.isEmpty && fraction.isEmpty then none
  else
    (exponent? rest).map fun e =>
      { negative, digits := ofDigits 10 (whole ++ fraction), exponent := e - fraction.length }

/-- A number, or the name of an infinity or of no number, in any case. -/
def literal? (cs : List Char) : Option Double :=
  let (negative, rest) := spanSign cs
  let name := String.ofList (rest.map asciiLower)
  if name = "inf" || name = "infinity" then some (.infinite negative)
  else if name = "nan" then some .nan
  else (scientific? cs).map Scientific.toDouble

/-- Digits of any script as ASCII digits; other characters are kept. -/
def asciiDigits (cs : List Char) : List Char :=
  cs.map fun c => match digitValue? c with
    | some d => digitChar d
    | none => c

/-- The text without the low lines, each of which has to stand between two digits. -/
def withoutLowLines? (cs : List Char) : Option (List Char) :=
  go none cs
where
  /-- The rest without its low lines, given the character before it. -/
  go : Option Char → List Char → Option (List Char)
    | before, [] => if before = some '_' then none else some []
    | before, c :: cs =>
      let afterDigit := before.any isAsciiDigit
      if c = '_' then if afterDigit then go (some c) cs else none
      else if before = some '_' && !isAsciiDigit c then none
      else (go (some c) cs).map (c :: ·)

/-- A number with white space around it, digits of any script and low lines between digits. -/
def looseDouble? (cs : List Char) : Option Double :=
  (withoutLowLines? (asciiDigits (trimBy isWhiteSpace cs))).bind literal?

/-- A whole number of a base with a sign in front, filling the text. -/
def signedDigits? (base : Nat) (cs : List Char) : Option Int :=
  let (negative, rest) := spanSign cs
  if rest.isEmpty then none
  else
    (rest.mapM fun c => (hexValue? c).filter (· < base)).map fun ds =>
      Double.signed negative (ofDigits base ds)

/-- A whole number with white space around it, digits of any script and low lines between digits. -/
def looseInt? (cs : List Char) : Option Int :=
  (withoutLowLines? (asciiDigits (trimBy isWhiteSpace cs))).bind (signedDigits? 10)

/-- The text without its low lines, none of which stands at an end or beside another. -/
def withoutInnerLowLines? (cs : List Char) : Option (List Char) :=
  let parts := cutAt '_' cs
  if parts.any List.isEmpty then none else some parts.flatten

/-- The text without leading zeros and low lines among them; the last character is kept. -/
def withoutLeadingZeros : List Char → List Char
  | '0' :: c :: cs =>
    if c = '0' || c = '_' then withoutLeadingZeros ('0' :: cs)
    else if isAsciiDigit c then c :: cs
    else '0' :: c :: cs
  | cs => cs

/-- A whole number with white space around it and possibly a fraction of zeros. -/
def strictInt? (cs : List Char) : Option Int :=
  let cs := trimBy isWhiteSpace cs
  let (signed, cs) : Bool × List Char :=
    match cs with
    | '+' :: rest => (true, rest)
    | _ => (false, cs)
  let cs := withoutLeadingZeros cs
  let whole := cs.takeWhile (· != '.')
  let rest := cs.dropWhile (· != '.')
  if !(rest.drop 1).all (· == '0') then none
  else
    match withoutInnerLowLines? whole with
    | none => none
    | some whole =>
      match whole with
      | '-' :: ds => if signed || (ds.length != 1 && ds.head? == some '0') then none
          else if ds.head?.all isAsciiDigit then signedDigits? 10 whole else none
      | _ => if whole.head?.all isAsciiDigit then signedDigits? 10 whole else none

/-- A number with white space around it. -/
def strictDouble? (cs : List Char) : Option Double :=
  match literal? (trimBy isWhiteSpace cs) with
  | some x => some x
  | none => (withoutInnerLowLines? cs).bind literal?

end Placard.Number
