import Placard.Html.CharacterName
import Placard.Text.Case

/-!
# References to characters

A character can be written by its name or by its number. In attributes names count even when no
semicolon follows and when they are only the beginning of a word; in text the scanner decides where
a name ends, and a name that is unknown stays as it is.
-/

namespace Placard.Html

open Placard.Text

/-- The characters that the numbers from 128 to 159 stand for; none where there is no such
character. -/
def middleNumbers : List (Option Char) :=
  [0x20ac, 0, 0x201a, 0x192, 0x201e, 0x2026, 0x2020, 0x2021, 0x2c6, 0x2030, 0x160, 0x2039, 0x152,
    0, 0x17d, 0, 0, 0x2018, 0x2019, 0x201c, 0x201d, 0x2022, 0x2013, 0x2014, 0x2dc, 0x2122, 0x161,
    0x203a, 0x153, 0, 0x17e, 0x178].map fun n => if n = 0 then none else some (Char.ofNat n)

/-- Whether the number is that of a character. -/
def isCharNumber (n : Nat) : Bool :=
  n < 0x110000 && !(0xd800 ≤ n && n ≤ 0xdfff)

/-- The character that a number stands for in text. -/
def numbered (n : Nat) : Char :=
  if !isCharNumber n then '\ufffd'
  else if 0x80 ≤ n && n ≤ 0x9f then
    ((middleNumbers[n - 0x80]?).getD none).getD (Char.ofNat n)
  else Char.ofNat n

/-- Whether a number stands for nothing in an attribute: controls that are no white space, and code
points that never are characters. -/
def isVoidNumber (n : Nat) : Bool :=
  (1 ≤ n && n ≤ 8) || n == 0xb || (0xe ≤ n && n ≤ 0x1f) || n == 0x7f ||
    (0xfdd0 ≤ n && n ≤ 0xfdef) || n % 0x10000 == 0xfffe || n % 0x10000 == 0xffff

/-- What a number stands for in an attribute. -/
def numberedInAttribute (n : Nat) : List Char :=
  if n = 0 then ['\ufffd']
  else if !isCharNumber n then ['\ufffd']
  else if isVoidNumber n then []
  else [numbered n]

/-- What a name stands for in text. -/
def namedInText (name : List Char) : List Char :=
  (named? name).getD ('&' :: name)

/-- The longest beginning of a word, of at least two and at most so many characters, that is a name
which needs no semicolon; with what follows it. -/
def openNameOf? (word : List Char) : Nat → Option (List Char × List Char)
  | 0 | 1 => none
  | n + 2 =>
    let name := word.take (n + 2)
    if openNames.contains name then
      (named? name).map fun cs => (cs, word.drop (n + 2))
    else openNameOf? word (n + 1)

/-- What a word behind an ampersand stands for in an attribute; a semicolon may have ended it. -/
def namedInAttribute (word : List Char) (ended : Bool) : List Char :=
  let whole := if ended || openNames.contains word then named? word else none
  let tail : List Char := if ended then [';'] else []
  match whole with
  | some cs => if ended then cs else cs ++ tail
  | none =>
    match openNameOf? word (if ended then word.length else word.length - 1) with
    | some (cs, rest) => cs ++ rest ++ tail
    | none => '&' :: word ++ tail

/-- Whether a character can be part of a word behind an ampersand. -/
def isReferenceWord (c : Char) : Bool :=
  !(c == '\t' || c == '\n' || c == '\x0c' || c == ' ' || c == '<' || c == '&' || c == '#' ||
    c == ';')

/-- The rest behind a semicolon, if one is there, and whether it is. -/
def behindSemicolon : List Char → List Char × Bool
  | ';' :: rest => (rest, true)
  | rest => (rest, false)

/-- What the reference behind an ampersand stands for, and what follows it. -/
def referenceAt? (cs : List Char) : Option (List Char × List Char) :=
  let number := fun (base : Nat) (digits rest : List Char) =>
    if digits.isEmpty then none
    else
      some (numberedInAttribute (ofDigits base (digits.filterMap hexValue?)),
        (behindSemicolon rest).1)
  match cs with
  | '#' :: c :: rest =>
    if c = 'x' || c = 'X' then
      number 16 (rest.takeWhile isHexDigit) (rest.dropWhile isHexDigit)
    else number 10 ((c :: rest).takeWhile isAsciiDigit) ((c :: rest).dropWhile isAsciiDigit)
  | _ =>
    let word := (cs.take 32).takeWhile isReferenceWord
    if word.isEmpty then none
    else
      let (rest, ended) := behindSemicolon (cs.drop word.length)
      some (namedInAttribute word ended, rest)

/-- The value of an attribute with all references replaced. -/
def unescape (cs : List Char) : List Char :=
  go (cs.length + 1) cs
where
  /-- The value from a place on. -/
  go : Nat → List Char → List Char
    | 0, cs => cs
    | _, [] => []
    | fuel + 1, c :: cs =>
      if c = '&' then
        match referenceAt? cs with
        | some (value, rest) => value ++ go fuel rest
        | none => c :: go fuel cs
      else c :: go fuel cs

end Placard.Html
