import Placard.Text.Utf8
import Placard.Yaml.Cursor

/-!
# Scalars as they are written

A scalar is a text written plainly, between quotes, or as a block:

* plain and quoted text runs over several lines, whose ends count as single blanks; empty lines
  between them stand for line ends;
* between double quotes there are escapes, between single quotes only a doubled quote;
* a block keeps its line ends, or folds them like quoted text, and says what happens to the last
  ones.
-/

namespace Placard.Yaml

open Placard.Text Cursor

/-- A scalar that was read, and the place behind it. -/
abbrev Scanned :=
  Except Fault (List Char × Cursor)

/-! ## Quoted scalars -/

/-- The characters that stand for others behind a back slash. -/
def escaped? : Char → Option Char
  | '0' => some '\x00'
  | 'a' => some '\x07'
  | 'b' => some '\x08'
  | 't' => some '\t'
  | '\t' => some '\t'
  | 'n' => some '\n'
  | 'v' => some '\x0b'
  | 'f' => some '\x0c'
  | 'r' => some '\r'
  | 'e' => some '\x1b'
  | ' ' => some ' '
  | '"' => some '"'
  | '\\' => some '\\'
  | '/' => some '/'
  | 'N' => some '\x85'
  | '_' => some '\xa0'
  | 'L' => some '\u2028'
  | 'P' => some '\u2029'
  | _ => none

/-- The number of digits that an escape has. -/
def escapeLength? : Char → Option Nat
  | 'x' => some 2
  | 'u' => some 4
  | 'U' => some 8
  | _ => none

/-- The character with a number of digits of base 16. -/
def codeEscape (length : Nat) (c : Cursor) : Scanned :=
  let ds := c.rest.take length
  if ds.length < length || !ds.all isHexDigit then .error .malformed
  else
    let n := ofDigits 16 (ds.filterMap hexValue?)
    if 0x7fffffff < n then .error .hugeCodePoint
    else if 0x10ffff < n then .error .codePoint
    else .ok ([Char.ofNat n], c.skip length)

/-- The line ends of the empty lines that follow, with blanks around them. -/
def quotedBreaks : Nat → Cursor → Scanned
  | 0, _ => .error .malformed
  | fuel + 1, c =>
    if c.isBoundary then .error .malformed
    else
      let c := c.pass fun a => a == ' ' || a == '\t'
      if isBreak c.here then
        let (br, c) := c.lineBreak
        (quotedBreaks fuel c).map fun p => (br ++ p.1, p.2)
      else .ok ([], c)

/-- What the line ends after a line of text stand for: a blank, if it is a single plain one. -/
def folded (br breaks : List Char) : List Char :=
  if br != ['\n'] then br ++ breaks else if breaks.isEmpty then [' '] else breaks

/-- The blanks and line ends between stretches of quoted text. -/
def quotedBlanks (fuel : Nat) (c : Cursor) : Scanned :=
  let (blanks, behind) := c.span fun a => a == ' ' || a == '\t'
  if behind.here = textEnd then .error .malformed
  else if isBreak behind.here then
    let (br, behind) := behind.lineBreak
    (quotedBreaks fuel behind).map fun p => (folded br p.1, p.2)
  else .ok (blanks, behind)

/-- Whether a character of quoted text stands for itself. -/
def isQuotedPlain (a : Char) : Bool :=
  !endsWord a && a != '\x27' && a != '"' && a != '\\'

/-- The rest of a quoted scalar, its end included. -/
def quotedRest (double : Bool) : Nat → Cursor → Scanned
  | 0, _ => .error .malformed
  | fuel + 1, c =>
    let go (text : List Char) (c : Cursor) : Scanned :=
      (quotedRest double fuel c).map fun p => (text ++ p.1, p.2)
    let quote := if double then '"' else '\x27'
    let (plain, behind) := c.span isQuotedPlain
    if !plain.isEmpty then go plain behind
    else if !double && c.here = '\x27' && c.ahead 1 = '\x27' then go ['\x27'] (c.skip 2)
    else if c.here = quote then .ok ([], c.next)
    else if c.here = '\x27' || c.here = '"' then go [c.here] c.next
    else if c.here = '\\' then
      if !double then go ['\\'] c.next
      else
        let c := c.next
        match escaped? c.here, escapeLength? c.here with
        | some a, _ => go [a] c.next
        | none, some length =>
          match codeEscape length c.next with
          | .error e => .error e
          | .ok (text, c) => go text c
        | none, none =>
          if isBreak c.here then
            match quotedBreaks (c.rest.length + 1) c.lineBreak.2 with
            | .error e => .error e
            | .ok (breaks, c) => go breaks c
          else .error .malformed
    else
      match quotedBlanks (c.rest.length + 1) c with
      | .error e => .error e
      | .ok (blanks, c) => go blanks c

/-- A quoted scalar. -/
def quotedScalar (c : Cursor) : Scanned :=
  quotedRest (c.here == '"') (c.rest.length + 1) c.next

/-! ## Plain scalars -/

/-- Whether plain text is over at the first character, the second one following it. -/
def endsPlain (inFlow : Bool) (a b : Char) : Bool :=
  endsWord a || (a == ':' && (endsWord b || (inFlow && ",[]\x7b\x7d".toList.contains b))) ||
    (inFlow && ",?[]\x7b\x7d".toList.contains a)

/-- The plain text on the rest of a stretch. -/
def plainStretch (inFlow : Bool) : List Char → List Char
  | [] => []
  | a :: rest =>
    if endsPlain inFlow a (rest.headD textEnd) then [] else a :: plainStretch inFlow rest

/-- The line ends of empty lines in plain text. None at all is returned where a document ends. -/
def plainBreaks : Nat → Cursor → Option (List Char) × Cursor
  | 0, c => (some [], c)
  | fuel + 1, c =>
    let c := c.pass (· == ' ')
    if isBreak c.here then
      let (br, c) := c.lineBreak
      if c.isBoundary then (none, c)
      else
        let (more, c) := plainBreaks fuel c
        (more.map (br ++ ·), c)
    else (some [], c)

/-- What stands between two stretches of plain text, the place behind it, and whether a line
ended. -/
def plainBlanks (c : Cursor) : List Char × Cursor × Bool :=
  let (blanks, behind) := c.span (· == ' ')
  if isBreak behind.here then
    let (br, behind) := behind.lineBreak
    if behind.isBoundary then ([], behind, true)
    else
      match plainBreaks (behind.rest.length + 1) behind with
      | (none, behind) => ([], behind, true)
      | (some breaks, behind) => (folded br breaks, behind, true)
  else (blanks, behind, false)

/-- A plain scalar whose further lines are indented by at least so much; what follows it, and
whether its last stretch was followed by a line end. -/
def plainRest (inFlow : Bool) (indent : Int) : Nat → List Char → Cursor → Bool →
    List Char × Cursor × Bool
  | 0, _, c, ended => ([], c, ended)
  | fuel + 1, between, c, ended =>
    if c.here = '#' then ([], c, ended)
    else
      let text := plainStretch inFlow c.rest
      if text.isEmpty then ([], c, ended)
      else
        let (blanks, behind, ended) := plainBlanks (c.skip text.length)
        if blanks.isEmpty || behind.here = '#' || (!inFlow && behind.column < indent) then
          (between ++ text, behind, ended)
        else
          let (more, behind, ended) := plainRest inFlow indent fuel blanks behind ended
          (between ++ text ++ more, behind, ended)

/-! ## Block scalars -/

/-- How a block is read: whether it folds lines, what becomes of the last line ends, and its
indentation if it is said. -/
structure BlockStyle where
  folds : Bool
  /-- keep all of them, drop all of them, or keep just one -/
  keeps : Option Bool
  indent : Option Nat

/-- The sign for the last line ends, and the place behind it. -/
def keepSign (c : Cursor) : Option Bool × Cursor :=
  if c.here = '+' then (some true, c.next)
  else if c.here = '-' then (some false, c.next)
  else (none, c)

/-- The digit for the indentation, and the place behind it. -/
def indentDigit (c : Cursor) : Except Fault (Option Nat × Cursor) :=
  match asciiDigit? c.here with
  | some 0 => .error .malformed
  | some n => .ok (some n, c.next)
  | none => .ok (none, c)

/-- The signs behind the mark of a block, in either order. -/
def blockStyle (folds : Bool) (c : Cursor) : Except Fault (BlockStyle × Cursor) := do
  let (keeps, c) := keepSign c
  let (indent, c) ← indentDigit c
  let (keeps, c) := if keeps.isNone && indent.isSome then keepSign c else (keeps, c)
  if endsField c.here then return ({ folds, keeps, indent }, c) else .error .malformed

/-- The empty lines ahead and the greatest column among the blanks in front of what follows. -/
def blockIndent : Nat → Nat → Cursor → List Char × Nat × Cursor
  | 0, greatest, c => ([], greatest, c)
  | fuel + 1, greatest, c =>
    if c.here = ' ' then blockIndent fuel (max greatest c.next.column) c.next
    else if isBreak c.here then
      let (br, c) := c.lineBreak
      let (breaks, greatest, c) := blockIndent fuel greatest c
      (br ++ breaks, greatest, c)
    else ([], greatest, c)

/-- The place behind the blanks up to a column. -/
def passIndent (indent : Nat) : Nat → Cursor → Cursor
  | 0, c => c
  | fuel + 1, c => if c.column < indent && c.here = ' ' then passIndent indent fuel c.next else c

/-- The empty lines ahead of a line of a block with a given indentation. -/
def blockBreaks (indent : Nat) : Nat → Cursor → List Char × Cursor
  | 0, c => ([], c)
  | fuel + 1, c =>
    let c := passIndent indent indent c
    if isBreak c.here then
      let (br, c) := c.lineBreak
      let (breaks, c) := blockBreaks indent fuel c
      (br ++ breaks, c)
    else ([], c)

/-- Whether a line begins with a blank. -/
def isIndented (c : Cursor) : Bool :=
  c.here == ' ' || c.here == '\t'

/-- The lines of a block from here on: their text, the end of the last one, the empty lines behind
it, and the place behind all. -/
def blockLines (folds : Bool) (indent : Nat) : Nat → Cursor →
    List Char × List Char × List Char × Cursor
  | 0, c => ([], [], [], c)
  | fuel + 1, c =>
    let (text, behind) := c.span (!isBreak ·)
    let (br, behind) := behind.lineBreak
    let (breaks, behind) := blockBreaks indent (behind.rest.length + 1) behind
    if behind.column = indent && behind.here != textEnd then
      let between :=
        if folds && br = ['\n'] && !isIndented c && !isIndented behind then
          if breaks.isEmpty then [' '] else []
        else br
      let (more, last, empty, behind) := blockLines folds indent fuel behind
      (text ++ between ++ breaks ++ more, last, empty, behind)
    else (text, br, breaks, behind)

/-- A block scalar inside of a given indentation. -/
def blockScalar (indent : Int) (c : Cursor) : Scanned := do
  let (style, c) ← blockStyle (c.here == '>') c.next
  let c ← c.passRemark
  let least := (max 1 (indent + 1)).toNat
  let (breaks, indent, c) := match style.indent with
    | some n =>
      let indent := least + n - 1
      let (breaks, c) := blockBreaks indent (c.rest.length + 1) c
      (breaks, indent, c)
    | none =>
      let (breaks, greatest, c) := blockIndent (c.rest.length + 1) 0 c
      (breaks, max least greatest, c)
  let (text, last, empty, c) :=
    if c.column = indent && c.here != textEnd then
      let (text, last, empty, c) := blockLines style.folds indent (c.rest.length + 1) c
      (breaks ++ text, last, empty, c)
    else ([], [], breaks, c)
  return (text ++ (if style.keeps = some false then [] else last) ++
    (if style.keeps = some true then empty else []), c)

end Placard.Yaml
