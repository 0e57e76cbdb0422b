import Placard.Html.CharacterName
import Placard.Markdown.Definition
import Placard.Markdown.Rewrite

/-!
# Links and images

A link is a text in brackets with its target behind it, either in parentheses or as a label that is
defined elsewhere in the document. An image is written like a link behind an exclamation mark. An
address between angle brackets is a link of its own.
-/

namespace Placard.Markdown

open Placard.Text Piece

/-! ## Texts in brackets -/

/-- The text up to the bracket that closes it, with so many brackets open, and what follows. -/
def bracketed? : Nat → List Piece → Option (List Piece × List Piece)
  | _, [] => none
  | depth, p :: ps =>
    if p.isChar ']' && depth ≤ 1 then some ([], ps)
    else
      let depth := if p.isChar ']' then depth - 1 else if p.isChar '[' then depth + 1 else depth
      (bracketed? depth ps).map fun (text, rest) => (p :: text, rest)

/-! ## Targets in parentheses -/

/-- The target of a link and what follows it. -/
structure Target where
  address : List Char
  title : Option (List Char)
  rest : List Piece

/-- A title without quotes around it, in one line. -/
def cleanTitle (title : List Char) : List Char :=
  let inner :=
    match title.head?, title.getLast? with
    | some a, some b =>
      if a = b && (a = '"' || a = '\x27') then (title.drop 1).take (title.length - 2) else title
    | _, _ => title
  inner.map fun c => if isBlank c then ' ' else c

/-- The target whose written forms these are. -/
def target (address : List Piece) (title : Option (List Piece)) (rest : List Piece) : Target :=
  { address := trim (charsOf address)
    title := title.map fun t => cleanTitle (charsOf (trimPieces t))
    rest }

/-- The pieces up to a character, and what follows that character. -/
def upTo? (c : Char) (ps : List Piece) : Option (List Piece × List Piece) :=
  let text := ps.takeWhile fun p => !p.isChar c
  match ps.drop text.length with
  | _ :: rest => some (text, rest)
  | [] => none

/-- The pieces without the blanks at their start. -/
def skipBlanks (ps : List Piece) : List Piece :=
  ps.dropWhile isBlankPiece

/-- What follows the parenthesis that closes a target, if that comes next. -/
def closed? (ps : List Piece) : Option (List Piece) :=
  match skipBlanks ps with
  | p :: rest => if p.isChar ')' then some rest else none
  | [] => none

/-- A target between angle brackets, given what follows the opening parenthesis. -/
def angleTarget? (ps : List Piece) : Option Target :=
  match ps with
  | p :: ps =>
    if p.isChar '<' then
      match upTo? '>' ps with
      | none => none
      | some (address, rest) =>
        if address.any (isChar '<') then none
        else
          let quotedTitle : Option Target :=
            match skipBlanks rest with
            | q :: more =>
              if q.isChar '"' || q.isChar '\x27' then
                match upTo? ((q.char?).getD '"') more with
                | some (title, rest) =>
                  (closed? rest).map (target (trimPieces address) (some title))
                | none => none
              else none
            | [] => none
          match quotedTitle with
          | some t => some t
          | none => (closed? rest).map (target (trimPieces address) none)
    else none
  | [] => none

/-- The search for the end of a target. Places count the pieces behind the opening parenthesis. As
soon as a quote begins, what follows may be a title, in which parentheses do not count; they are
counted on the side in case it is none. -/
structure TargetScan where
  place : Nat
  depth : Nat
  spareDepth : Nat
  inTitle : Bool
  /-- The place behind the parenthesis that would end a target without title. -/
  spareEnd : Option Nat
  quote : Option Char
  titleStart : Nat
  titleEnd : Option Nat
  otherQuote : Option Char
  otherStart : Nat
  otherEnd : Option Nat
  /-- The latest piece that is no space, if it is a character. -/
  latest : Option Char

namespace TargetScan

/-- The scan behind the opening parenthesis. -/
def start : TargetScan :=
  { place := 0, depth := 1, spareDepth := 1, inTitle := false, spareEnd := none, quote := none
    titleStart := 0, titleEnd := none, otherQuote := none, otherStart := 0, otherEnd := none
    latest := none }

/-- Whether the latest piece closes the title. -/
def titleCloses (s : TargetScan) : Bool :=
  s.titleEnd.isSome && s.quote == s.latest

/-- Whether the latest piece closes a title in quotes of the other kind. -/
def otherCloses (s : TargetScan) : Bool :=
  s.otherEnd.isSome && s.otherQuote == s.latest

/-- The scan behind a character; the place and the latest piece stay. -/
def read (c : Char) (s : TargetScan) : TargetScan :=
  let behind := s.place + 1
  if c = '(' then
    if !s.inTitle then { s with depth := s.depth + 1 }
    else { s with spareDepth := s.spareDepth - 1 }
  else if c = ')' then
    if s.titleCloses || s.otherCloses then { s with depth := 0 }
    else if !s.inTitle then { s with depth := s.depth - 1 }
    else if s.spareDepth = 1 then { s with spareDepth := 0, spareEnd := some behind }
    else { s with spareDepth := s.spareDepth - 1 }
  else if c = '"' || c = '\x27' then
    match s.quote with
    | none =>
      { s with inTitle := true, spareDepth := s.depth, depth := 1, titleStart := behind
               quote := some c }
    | some q =>
      if c = q then { s with titleEnd := some behind }
      else if s.otherQuote.isNone then { s with otherStart := behind, otherQuote := some c }
      else if s.otherQuote = some c then { s with otherEnd := some behind }
      else s
  else s

/-- The pieces between two places. -/
def between (ps : List Piece) (first last : Nat) : List Piece :=
  (ps.take last).drop first

/-- The target that the scan has found; `ps` are all pieces behind the opening parenthesis. -/
def target (ps : List Piece) (s : TargetScan) : Target :=
  let rest := ps.drop s.place
  if s.titleCloses then
    Markdown.target (ps.take (s.titleStart - 1))
      (some (between ps s.titleStart ((s.titleEnd.getD 0) - 1))) rest
  else if s.otherCloses then
    Markdown.target (ps.take (s.otherStart - 1))
      (some (between ps s.otherStart ((s.otherEnd.getD 0) - 1))) rest
  else Markdown.target (ps.take (s.place - 1)) none rest

/-- The target of a link whose title never ends. If no parenthesis has ended it before, it takes all
but the last two pieces of the text, and only the last one follows it. -/
def spareTarget (ps : List Piece) (s : TargetScan) : Target :=
  match s.spareEnd with
  | some last => Markdown.target (ps.take (last - 1)) none (ps.drop last)
  | none => Markdown.target (ps.take (ps.length - 2)) none (ps.drop (ps.length - 1))

/-- The target that the remaining pieces complete. -/
def find? (ps : List Piece) : List Piece → TargetScan → Option Target
  | [], s => if s.spareDepth = 0 then some (s.spareTarget ps) else none
  | p :: rest, s =>
    let s' := (p.char?).elim s fun c => s.read c
    let s' := { s' with place := s.place + 1 }
    if s'.depth = 0 then some (s'.target ps)
    else find? ps rest (if p.isChar ' ' then s' else { s' with latest := p.char? })

end TargetScan

/-- The target in parentheses that comes next. -/
def parenthesized? : List Piece → Option Target
  | p :: ps =>
    if p.isChar '(' then
      let ps := skipBlanks ps
      match angleTarget? ps with
      | some t => some t
      | none => TargetScan.find? ps ps .start
    else none
  | [] => none

/-! ## Rules -/

/-- The attribute of a title. -/
def titleAttribute (title : Option (List Char)) : List (String × List Char) :=
  title.elim [] fun t => [("title", t)]

/-- A link with a text. -/
def linkTo (address : List Char) (title : Option (List Char)) (text : List Piece) : Piece :=
  element .link (("href", address) :: titleAttribute title) text

/-- An image with a text that stands for it. -/
def imageOf (address : List Char) (title : Option (List Char)) (text : List Piece) : Piece :=
  element .image (("src", address) :: titleAttribute title ++ [("alt", charsOf text)]) []

/-- What follows the bracket that opens the text of a link here. -/
def linkStart? (before : Option Piece) : List Piece → Option (List Piece)
  | p :: ps => if p.isChar '[' && !before.any (isChar '!') then some ps else none
  | [] => none

/-- What follows the bracket that opens the text of an image here. -/
def imageStart? (_ : Option Piece) : List Piece → Option (List Piece)
  | p :: q :: ps => if p.isChar '!' && q.isChar '[' then some ps else none
  | _ => none

/-- Links or images with a target in parentheses. -/
def directRule (start? : Option Piece → List Piece → Option (List Piece))
    (make : List Char → Option (List Char) → List Piece → Piece) : Rule := fun before ps =>
  match (start? before ps).bind (bracketed? 1) with
  | none => .nothing
  | some (text, rest) =>
    match parenthesized? rest with
    | none => .nothing
    | some t => .replaced [make t.address t.title text] t.rest

/-- A label as it is looked up: in small letters, with single spaces; none if it holds markup. -/
def labelOf? (ps : List Piece) : Option (List Char) :=
  (openChars? ps).map fun cs => oneSpace (lower cs)
where
  /-- The text with a space for each stretch of blanks. -/
  oneSpace : List Char → List Char
    | [] => []
    | c :: cs =>
      if isBlank c then
        match oneSpace cs with
        | ' ' :: rest => ' ' :: rest
        | rest => ' ' :: rest
      else c :: oneSpace cs

/-- The label in brackets that comes next, perhaps behind a blank, and what follows. -/
def label? (ps : List Piece) : Option (List Piece × List Piece) :=
  let behindBlank :=
    match ps with
    | p :: rest => if p.isBlankPiece then rest else ps
    | [] => ps
  match behindBlank with
  | p :: rest => if p.isChar '[' then upTo? ']' rest else none
  | [] => none

/-- What a label makes of a text: a link or an image if it is defined, else both stay. -/
def resolve (defs : Definitions)
    (make : List Char → Option (List Char) → List Piece → Piece) (label text rest : List Piece) :
    Finding :=
  match (labelOf? label).bind defs.find? with
  | none => .kept rest
  | some d => .replaced [make d.target d.title text] rest

/-- Links or images with a label in brackets of its own; an empty label stands for the text. -/
def labelRule (defs : Definitions) (start? : Option Piece → List Piece → Option (List Piece))
    (make : List Char → Option (List Char) → List Piece → Piece) : Rule := fun before ps =>
  match (start? before ps).bind (bracketed? 1) with
  | none => .nothing
  | some (text, rest) =>
    match label? rest with
    | none => .nothing
    | some (label, rest) => resolve defs make (if label.isEmpty then text else label) text rest

/-- Links or images whose text is their label. -/
def shortRule (defs : Definitions) (start? : Option Piece → List Piece → Option (List Piece))
    (make : List Char → Option (List Char) → List Piece → Piece) : Rule := fun before ps =>
  match (start? before ps).bind (bracketed? 1) with
  | none => .nothing
  | some (text, rest) => resolve defs make text text rest

/-! ## Addresses between angle brackets -/

/-- The text between angle brackets that comes next, and what follows. -/
def angled? : List Piece → Option (List Piece × List Piece)
  | p :: ps =>
    if p.isChar '<' then
      match upTo? '>' ps with
      | some (text, rest) => if text.any (isChar '<') then none else some (text, rest)
      | none => none
    else none
  | [] => none

/-- Whether the text begins as a web or file address. -/
def beginsAsAddress (ps : List Piece) : Bool :=
  let start := ((ps.take 8).map fun p => (p.char?).getD '\x00').map asciiLower
  ["http://", "https://", "ftp://", "ftps://"].any fun scheme => startsWith scheme.toList start

/-- The pieces as text that no rule reads any more. -/
def protect (ps : List Piece) : List Piece :=
  ps.map fun
    | .char c => .literal c
    | p => p

/-- Web and file addresses. -/
def addressRule : Rule := fun _ ps =>
  match angled? ps with
  | none => .nothing
  | some (text, rest) =>
    if beginsAsAddress text then .replaced [linkTo (charsOf text) none (protect text)] rest
    else .nothing

/-- Whether the text is a mail address: something before the last at sign, something behind it, and
neither a space nor, before the sign, an exclamation mark. -/
def isMailAddress (text : List Piece) : Bool :=
  let domain := text.reverse.takeWhile fun p => !p.isChar '@'
  let user := text.take (text.length - domain.length - 1)
  domain.length < text.length && !domain.isEmpty && !user.isEmpty &&
    !text.any (isChar ' ') && !user.any (isChar '!')

/-- The characters of a mail address. Those behind a backslash are kept as marked numbers. -/
def mailChars (ps : List Piece) : List Char :=
  ps.flatMap fun
    | .literal c => '\x02' :: natText c.toNat ++ ['\x03']
    | p => p.chars

/-- The number of a character in written form. -/
def numberReference (c : Char) : List Char :=
  '&' :: '#' :: natText c.toNat ++ [';']

/-- A character in written form, by its name if it has one. -/
def reference (c : Char) : List Char :=
  match Html.writtenName? c with
  | some name => '&' :: name ++ [';']
  | none => numberReference c

/-- Mail addresses, written so that no character of them shows. -/
def mailRule : Rule := fun _ ps =>
  match angled? ps with
  | none => .nothing
  | some (text, rest) =>
    if isMailAddress text then
      let cs := mailChars text
      let cs := (afterStart? "mailto:".toList cs).getD cs
      .replaced [linkTo (("mailto:".toList ++ cs).flatMap numberReference) none
        (cs.map fun c => entity (reference c))] rest
    else .nothing

end Placard.Markdown
