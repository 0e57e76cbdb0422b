import Placard.Text.Digit
import Placard.Yaml.Fault

/-!
# Places in a text

A cursor is a place in a text: what follows it, and how it is counted. Behind the last character the
text reads as a character of code zero, which no document contains.
-/

namespace Placard.Yaml

open Placard.Text

/-- A place in a text. -/
structure Cursor where
  rest : List Char
  /-- the number of characters before -/
  index : Nat
  /-- the number of lines before -/
  line : Nat
  /-- the number of characters before on the same line -/
  column : Nat

/-- What the text reads as behind its end. -/
def textEnd : Char := '\x00'

/-- Whether a character ends a line. -/
def isBreak (c : Char) : Bool :=
  c == '\n' || c == '\r' || c == '\x85' || c == '\u2028' || c == '\u2029'

/-- Whether a line is over here. -/
def endsLine (c : Char) : Bool :=
  c == textEnd || isBreak c

/-- Whether a word is over here, tabs not regarded. -/
def endsField (c : Char) : Bool :=
  c == ' ' || endsLine c

/-- Whether a word is over here. -/
def endsWord (c : Char) : Bool :=
  c == '\t' || endsField c

/-- Whether a character can stand in a name. -/
def isNameChar (c : Char) : Bool :=
  isAsciiLetter c || isAsciiDigit c || c == '-' || c == '_'

namespace Cursor

/-- The first place of a text. -/
def start (cs : List Char) : Cursor :=
  { rest := cs, index := 0, line := 0, column := 0 }

/-- The character at a distance. -/
def ahead (c : Cursor) (n : Nat) : Char :=
  (c.rest[n]?).getD textEnd

/-- The next character. -/
def here (c : Cursor) : Char :=
  c.rest.headD textEnd

/-- The place behind the next character. -/
def next (c : Cursor) : Cursor :=
  match c.rest with
  | [] => c
  | a :: rest =>
    if isBreak a && !(a == '\r' && rest.head? == some '\n') then
      { rest, index := c.index + 1, line := c.line + 1, column := 0 }
    else
      { rest, index := c.index + 1, line := c.line
        column := if a = '\ufeff' then c.column else c.column + 1 }

/-- The place a number of characters on. -/
def skip : Nat → Cursor → Cursor
  | 0, c => c
  | n + 1, c => skip n c.next

/-- The longest stretch of characters of a class, and the place behind it. -/
def span (p : Char → Bool) (c : Cursor) : List Char × Cursor :=
  let cs := c.rest.takeWhile p
  (cs, c.skip cs.length)

/-- The place behind all characters of a class. -/
def pass (p : Char → Bool) (c : Cursor) : Cursor :=
  (c.span p).2

/-- The line end that begins here, in its plain form, and the place behind it. -/
def lineBreak (c : Cursor) : List Char × Cursor :=
  match c.rest with
  | '\r' :: '\n' :: _ => (['\n'], c.skip 2)
  | a :: _ =>
    if a = '\u2028' || a = '\u2029' then ([a], c.next)
    else if isBreak a then (['\n'], c.next)
    else ([], c)
  | [] => ([], c)

/-- Whether three given characters begin here and a word ends behind them. -/
def isMarker (mark : Char) (c : Cursor) : Bool :=
  c.here == mark && c.ahead 1 == mark && c.ahead 2 == mark && endsWord (c.ahead 3)

/-- Whether a mark between documents begins here. -/
def isBoundary (c : Cursor) : Bool :=
  c.isMarker '-' || c.isMarker '.'

/-- The place behind the rest of a line that holds at most a remark. -/
def passRemark (c : Cursor) : Except Fault Cursor :=
  let c := c.pass (· == ' ')
  let c := if c.here = '#' then c.pass (!isBreak ·) else c
  if endsLine c.here then .ok c.lineBreak.2 else .error .malformed

end Cursor

end Placard.Yaml
