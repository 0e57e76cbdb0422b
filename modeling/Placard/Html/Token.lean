import Placard.Html.Reference
import Placard.Text.Quoted

/-!
# The tokens of markup

A scanner divides markup into start tags, end tags, text and other marks. It is tolerant: what is no
complete mark is text. It runs twice. The first run stops where a mark may be incomplete, the second
one goes on from there and takes as text what is still incomplete at the end.
-/

namespace Placard.Html

open Placard.Text

/-- A piece of markup. -/
inductive Token where
  | start (name : List Char) (attributes : List (List Char × List Char)) (closed : Bool)
  | finish (name : List Char)
  | text (cs : List Char)
  | comment
  /-- A declaration, an instruction or a marked section: a text of its own. -/
  | section (cs : List Char)

/-- Why markup is refused: a marked section has no name, or an unknown one. The text is that of the
section's beginning or name. -/
inductive Refusal where
  | unnamedSection (start : List Char)
  | unknownSection (name : List Char)
deriving DecidableEq

/-- The wording. -/
def Refusal.message (r : Refusal) : String :=
  "The markup you provided was rejected by the parser. Trying a different parser or a different " ++
    "encoding may help.\n\nOriginal error(s) from parser:\n  " ++
    match r with
    | .unnamedSection start => "expected name token at " ++ String.ofList (quote start)
    | .unknownSection name =>
      "unknown status keyword " ++ String.ofList (quote name) ++ " in marked section"

/-- What reading a mark gives: the token and the rest, that the mark is incomplete, or a refusal. -/
inductive Marked where
  | token (t : List Token) (rest : List Char)
  | incomplete
  | refused (r : Refusal)

/-! ## Names and attributes -/

/-- Whether the character ends the name of a tag. -/
def endsName (c : Char) : Bool :=
  c == '\t' || c == '\n' || c == '\r' || c == '\x0c' || c == ' ' || c == '/' || c == '>' ||
    c == '\x00'

/-- The rest of a tag behind blanks and slashes, with the last character passed. A slash that ends
the tag stays. -/
def skipGap : Option Char → List Char → Option Char × List Char
  | before, [] => (before, [])
  | before, c :: cs =>
    if isBlank c then skipGap (some c) cs
    else if c = '/' && cs.head? != some '>' then skipGap (some c) cs
    else (before, c :: cs)

/-- The text in quotes that comes next, with its quotes, and what follows it. -/
def quotedValue? : List Char → Option (List Char × List Char)
  | q :: cs =>
    if q = '"' || q = '\x27' then
      let inner := cs.takeWhile (· != q)
      match cs.drop inner.length with
      | _ :: rest => some (q :: inner ++ [q], rest)
      | [] => none
    else none
  | [] => none

/-- The value without quotes that comes next, and what follows it. -/
def bareValue (cs : List Char) : List Char × List Char :=
  cs.span fun c => c != '>' && !isBlank c

/-- The written value of an attribute, given what follows its name, and what follows the value. An
open quote is no value: then the blank or the equals sign before it counts. -/
def attributeValue? (cs : List Char) : Option (List Char × List Char) :=
  let behind := cs.dropWhile isBlank
  let signs := behind.takeWhile (· == '=')
  let afterSigns := behind.drop signs.length
  let gap := afterSigns.takeWhile isBlank
  let value := afterSigns.drop gap.length
  if signs.isEmpty then none
  else
    match quotedValue? value with
    | some p => some p
    | none =>
      if value.head? != some '"' && value.head? != some '\x27' then some (bareValue value)
      else if !gap.isEmpty then some ([], gap.drop (gap.length - 1) ++ value)
      else if 2 ≤ signs.length then some (bareValue ('=' :: value))
      else none

/-- The name of the attribute that comes next, if one may begin behind the character before, and
what follows it. -/
def attributeName? (before : Option Char) (cs : List Char) : Option (List Char × List Char) :=
  match before, cs with
  | some b, c :: rest =>
    if (b = '"' || b = '\x27' || b = '/' || isBlank b) && !(isBlank c || c = '/' || c = '>') then
      let (name, rest) := rest.span fun c => !(isBlank c || c == '/' || c == '=' || c == '>')
      some (c :: name, rest)
    else none
  | _, _ => none

/-- The last character of a text, or the one before it. -/
def lastOf (before : Option Char) (cs : List Char) : Option Char :=
  cs.getLast?.or before

/-- The attributes that come next, with their written values, and what follows them. -/
def attributes : Nat → Option Char → List Char →
    List (List Char × Option (List Char)) × List Char
  | 0, _, cs => ([], cs)
  | fuel + 1, before, cs =>
    match attributeName? before cs with
    | none => ([], cs)
    | some (name, rest) =>
      let (value, rest) : Option (List Char) × List Char :=
        match attributeValue? rest with
        | some (value, rest) => (some value, rest)
        | none => (none, rest)
      let passed := cs.take (cs.length - rest.length)
      let (before, rest) := skipGap (lastOf before passed) rest
      let (more, rest) := attributes fuel before rest
      ((name, value) :: more, rest)

/-- The value that a written value stands for. -/
def valueOf (written : Option (List Char)) : List Char :=
  match written with
  | none => []
  | some cs =>
    match quotedValue? cs with
    | some (_, []) => unescape ((cs.drop 1).take (cs.length - 2))
    | _ => unescape cs

/-- The rest of the text behind what a start tag may hold: blanks and slashes, attributes, blanks.
-/
def behindTag (before : Option Char) (cs : List Char) : List Char :=
  let gap := cs.takeWhile fun c => isBlank c || c == '/'
  let (_, rest) := attributes (cs.length + 1) (lastOf before gap) (cs.drop gap.length)
  rest.dropWhile isBlank

/-- The start tag behind an opening angle bracket; a letter comes next. -/
def startTag (cs : List Char) : Marked :=
  let (name, rest) := cs.span fun c => !endsName c
  let behind := behindTag name.getLast? rest
  let ended (n : Nat) : Marked :=
    let all := cs.take n
    let after := cs.drop n
    let (before, inner) := skipGap name.getLast? rest
    let (attrs, close) := attributes (cs.length + 1) before inner
    let close := trim (close.take (close.length - after.length))
    let found := attrs.map fun a => (lower a.1, valueOf a.2)
    if close = ['>'] then .token [.start (lower name) found false] after
    else if close = ['/', '>'] then .token [.start (lower name) found true] after
    else .token [.text ('<' :: all)] after
  let passed := cs.length - behind.length
  match behind with
  | [] => .incomplete
  | '>' :: _ => ended (passed + 1)
  | '/' :: '>' :: _ => ended (passed + 2)
  | c :: _ => if c = '/' || c = '=' || isAsciiLetter c then .incomplete else ended passed

/-! ## Other marks -/

/-- The text up to a closing angle bracket, and what follows it. -/
def upToAngle? (cs : List Char) : Option (List Char × List Char) :=
  let inner := cs.takeWhile (· != '>')
  match cs.drop inner.length with
  | _ :: rest => some (inner, rest)
  | [] => none

/-- Whether a character can be part of the name of an end tag. -/
def isEndNameChar (c : Char) : Bool :=
  isAsciiLetter c || isAsciiDigit c || c == '-' || c == '.' || c == ':' || c == '_'

/-- The name of the end tag behind `</`, if nothing else stands in it, and what follows it. -/
def plainEndTag? (cs : List Char) : Option (List Char × List Char) :=
  match cs.dropWhile isBlank with
  | c :: rest =>
    if isAsciiLetter c then
      let (name, rest) := rest.span isEndNameChar
      match rest.dropWhile isBlank with
      | '>' :: after => some (c :: name, after)
      | _ => none
    else none
  | [] => none

/-- The end tag behind `</`. -/
def endTag (cs : List Char) : Marked :=
  match upToAngle? cs with
  | none => .incomplete
  | some (_, after) =>
    match plainEndTag? cs with
    | some (name, rest) => .token [.finish (lower name)] rest
    | none =>
      match cs with
      | c :: _ =>
        if isAsciiLetter c then
          let (name, rest) := cs.span fun c => !endsName c
          let (_, rest) := skipGap none rest
          match upToAngle? rest with
          | some (_, rest) => .token [.finish (lower name)] rest
          | none => .incomplete
        else if c = '>' then .token [] after
        else .token [.comment] after
      | [] => .incomplete

/-- The text up to the first place where an end begins, and what follows that end. -/
def upTo? (end? : List Char → Option (List Char)) : List Char → Option (List Char × List Char)
  | [] => none
  | c :: cs =>
    match end? (c :: cs) with
    | some rest => some ([], rest)
    | none => (upTo? end? cs).map fun (inner, rest) => (c :: inner, rest)

/-- The rest behind given characters with blanks between them. -/
def spacedEnd? : List Char → List Char → Option (List Char)
  | [], cs => some cs
  | m :: ms, cs =>
    match cs with
    | c :: rest => if c = m then spacedEnd? ms (if ms.isEmpty then rest else rest.dropWhile isBlank)
      else none
    | [] => none

/-- The rest behind the end of a comment. -/
def commentEnd? : List Char → Option (List Char)
  | '-' :: '-' :: rest =>
    match rest.dropWhile isBlank with
    | '>' :: after => some after
    | _ => none
  | _ => none

/-- The text without the beginning of a marked section's name that brings in plain text. -/
def sectionText (cs : List Char) : List Char :=
  if (cs.take 6).map asciiLower = "cdata[".toList then cs.drop 6 else cs

/-- The marked section behind `<![`; all of the mark is given too. -/
def markedSection (all cs : List Char) : Marked :=
  match cs with
  | [] => .incomplete
  | c :: more =>
    if !isAsciiLetter c then .refused (.unnamedSection (all.take 20))
    else
      let name := c :: more.takeWhile fun c =>
        isAsciiLetter c || isAsciiDigit c || c == '-' || c == '_' || c == '.'
      let gap := (cs.drop name.length).takeWhile isBlank
      if cs.length = name.length + gap.length then .incomplete
      else
        let close? : Option (List Char) :=
          let word := String.ofList (lower name)
          if ["temp", "cdata", "ignore", "include", "rcdata"].contains word then
            some [']', ']', '>']
          else if ["if", "else", "endif"].contains word then some [']', '>']
          else none
        match close? with
        | none => .refused (.unknownSection (name ++ gap))
        | some close =>
          match upTo? (spacedEnd? close) cs with
          | none => .incomplete
          | some (inner, rest) => .token [.section (sectionText inner)] rest

/-- The declaration behind `<!`, which is no comment; all of the mark is given too. -/
def declaration (all cs : List Char) : Marked :=
  match cs with
  | '[' :: rest => markedSection all rest
  | _ =>
    if (cs.take 7).map asciiLower = "doctype".toList then
      match upToAngle? (cs.drop 7) with
      | some (inner, rest) => .token [.section (inner.drop 1)] rest
      | none => .incomplete
    else
      match upToAngle? cs with
      | some (_, rest) => .token [.comment] rest
      | none => .incomplete

/-- The mark behind an opening angle bracket, if one begins there. -/
def mark? (cs : List Char) : Option Marked :=
  match cs with
  | '/' :: rest => some (endTag rest)
  | '!' :: '-' :: '-' :: rest =>
    some (match upTo? commentEnd? rest with
      | some (_, rest) => .token [.comment] rest
      | none => .incomplete)
  | '?' :: rest =>
    some (match upToAngle? rest with
      | some (inner, rest) => .token [.section inner] rest
      | none => .incomplete)
  | '!' :: rest => some (declaration ('<' :: cs) rest)
  | c :: _ => if isAsciiLetter c then some (startTag cs) else none
  | [] => none

/-! ## References in text -/

/-- The number that follows `&#`, if a character ends it that is no digit of base 16, and the rest
with that character. -/
def numberIn? (cs : List Char) : Option (Nat × List Char) :=
  let ended := fun (base : Nat) (digits rest : List Char) =>
    match rest with
    | c :: _ =>
      if digits.isEmpty || isHexDigit c then none
      else some (ofDigits base (digits.filterMap hexValue?), rest)
    | [] => none
  match cs with
  | c :: rest =>
    if c = 'x' || c = 'X' then ended 16 (rest.takeWhile isHexDigit) (rest.dropWhile isHexDigit)
    else ended 10 (cs.takeWhile isAsciiDigit) (cs.dropWhile isAsciiDigit)
  | [] => none

/-- The name that follows an ampersand, if a character ends it, and the rest with that character. -/
def nameIn? (cs : List Char) : Option (List Char × List Char) :=
  match cs with
  | c :: more =>
    if isAsciiLetter c then
      let isAlnum := fun c => isAsciiLetter c || isAsciiDigit c
      let (name, rest) := more.span fun c => isAlnum c || c == '-' || c == '.'
      match rest with
      | _ :: _ => some (c :: name, rest)
      | [] =>
        let kept := name.reverse.dropWhile isAlnum
        match kept with
        | d :: before => some (c :: before.reverse, d :: (name.drop kept.length))
        | [] => none
    else none
  | [] => none

/-! ## Scanning -/

/-- What the scanner looks for: any mark, or only the end of an element that holds plain text. -/
abbrev Raw := Option (List Char)

/-- The rest behind an opening angle bracket of the end tag with a name, if it begins here. -/
def rawEnd? (name : List Char) (cs : List Char) : Option (List Char) :=
  match cs with
  | '<' :: '/' :: rest =>
    let rest := rest.dropWhile isBlank
    if (rest.take name.length).map asciiLower = name then
      match (rest.drop name.length).dropWhile isBlank with
      | '>' :: _ => some cs
      | _ => none
    else none
  | _ => none

/-- The tokens, what is left to scan, and what the scanner looks for then. -/
abbrev Scan := List Token × List Char × Raw

/-- The scan with tokens before it. -/
def Scan.after (ts : List Token) (s : Scan) : Scan :=
  (ts ++ s.1, s.2)

/-- What the scanner looks for behind tokens. -/
def rawBehind (ts : List Token) : Raw :=
  match ts with
  | [.start name _ false] =>
    if name = "script".toList || name = "style".toList then some name else none
  | _ => none

/-- The text that an incomplete mark is taken as in the last run, and the rest. The opening angle
bracket is already passed. -/
def incompleteText (cs : List Char) : List Char × List Char :=
  match upToAngle? cs with
  | some (inner, rest) => ('<' :: inner ++ ['>'], rest)
  | none =>
    let inner := cs.takeWhile (· != '<')
    if inner.length < cs.length then ('<' :: inner, cs.drop inner.length) else (['<'], cs)

/-- One run of the scanner over a text. -/
def scan (last : Bool) : Nat → Raw → List Char → Except Refusal Scan
  | 0, raw, cs => .ok ([], cs, raw)
  | fuel + 1, raw, cs =>
    let goOn := fun (ts : List Token) (rest : List Char) =>
      (scan last fuel none rest).map (Scan.after ts)
    match raw with
    | some name =>
      match upTo? (rawEnd? name) cs with
      | none => .ok ([], cs, raw)
      | some (inner, rest) =>
        let ts := if inner.isEmpty then [] else [Token.text inner]
        match endTag (rest.drop 2) with
        | .token more rest => (scan last fuel none rest).map (Scan.after (ts ++ more))
        | _ => .ok (ts, rest, raw)
    | none =>
      match cs with
      | [] => .ok ([], [], none)
      | '<' :: more =>
        match mark? more with
        | some (.token ts rest) => (scan last fuel (rawBehind ts) rest).map (Scan.after ts)
        | some (.refused r) => .error r
        | some .incomplete =>
          if last then
            let (text, rest) := incompleteText more
            goOn [.text text] rest
          else .ok ([], cs, none)
        | none => if more.isEmpty then .ok ([], cs, none) else goOn [.text ['<']] more
      | '&' :: '#' :: more =>
        match numberIn? more with
        | some (n, rest) => goOn [.text [numbered n]] (behindSemicolon rest).1
        | none =>
          if more.contains ';' then .ok ([.text ['&', '#']], more, none) else .ok ([], cs, none)
      | '&' :: more =>
        match nameIn? more with
        | some (name, rest) => goOn [.text (namedInText name)] (behindSemicolon rest).1
        | none =>
          match more with
          | [] => .ok ([], cs, none)
          | c :: after =>
            if isAsciiLetter c then
              .ok ([], if last && after.isEmpty then more else cs, none)
            else goOn [.text ['&']] more
      | c :: more =>
        let (text, rest) := more.span fun c => c != '<' && c != '&'
        goOn [.text (c :: text)] rest

/-- The tokens of markup. -/
def tokens (cs : List Char) : Except Refusal (List Token) :=
  match scan false (cs.length + 1) none cs with
  | .error r => .error r
  | .ok (ts, rest, raw) =>
    match scan true (rest.length + 1) raw rest with
    | .error r => .error r
    | .ok (more, rest, raw) =>
      .ok (ts ++ more ++ (if raw.isSome || rest.isEmpty then [] else [.text rest]))

end Placard.Html
