import Placard.Markdown.Rewrite
import Placard.Markdown.Definition

/-!
# Attribute lists

An attribute list between braces gives an element classes, an identifier and other attributes:
`{: .class #id key=value }`. It stands at the end of a heading or cell, on the last line of another
block, or directly behind an inline element.
-/

namespace Placard.Markdown

open Placard.Text Piece

/-! ## Reading a list -/

/-- Whether a character can be part of a word in an attribute list. -/
def isListWord (c : Char) : Bool :=
  c != ' ' && c != '=' && c != '\x7d'

/-- The value of an attribute up to a quote, and what follows that quote. -/
def quotedValue? (quote : Char) (cs : List Char) : Option (List Char × List Char) :=
  let value := cs.takeWhile (· != quote)
  match cs.drop value.length with
  | _ :: rest => some (value, rest)
  | [] => none

/-- The value of an attribute, given what follows the equals sign. -/
def listValue? (cs : List Char) : Option (List Char × List Char) :=
  let quotedOne :=
    match cs with
    | c :: rest => if c = '"' || c = '\x27' then quotedValue? c rest else none
    | [] => none
  match quotedOne with
  | some p => some p
  | none =>
    let value := cs.takeWhile isListWord
    if value.isEmpty then none else some (value, cs.drop value.length)

/-- The entries of an attribute list, and what is left of it. A class has the key `.`. -/
def listEntries : Nat → List Char → List (List Char × List Char) × List Char
  | 0, cs => ([], cs)
  | fuel + 1, cs =>
    let word := cs.takeWhile isListWord
    let behind := cs.drop word.length
    if word.isEmpty then
      match cs with
      | ' ' :: rest => listEntries fuel rest
      | _ => ([], cs)
    else
      let entry : (List Char × List Char) × List Char :=
        match behind with
        | '=' :: rest =>
          match listValue? rest with
          | some (value, rest) => ((word, value), rest)
          | none => (lone word, behind)
        | _ => (lone word, behind)
      let (entries, rest) := listEntries fuel entry.2
      (entry.1 :: entries, rest)
where
  /-- The entry of a word that has no value. -/
  lone (word : List Char) : List Char × List Char :=
    match word with
    | '.' :: name => (['.'], name)
    | '#' :: name => ("id".toList, name)
    | _ => (word, word)

/-- The entries of an attribute list, and what is left of it from a closing brace on. -/
def readList (cs : List Char) : List (List Char × List Char) × List Char :=
  let (entries, rest) := listEntries (cs.length + 1) cs
  (entries, rest.dropWhile (· != '\x7d'))

/-- Whether a character can be part of a name in XML. -/
def isNameChar (c : Char) : Bool :=
  let n := c.toNat
  isAsciiLetter c || isAsciiDigit c || c == '_' || c == ':' || c == '-' || c == '.' || n == 0xb7 ||
    [(0xc0, 0xd6), (0xd8, 0xf6), (0xf8, 0x2ff), (0x300, 0x37d), (0x37f, 0x1fff), (0x200c, 0x200d),
      (0x203f, 0x2040), (0x2070, 0x218f), (0x2c00, 0x2fef), (0x3001, 0xd7ff), (0xf900, 0xfdcf),
      (0xfdf0, 0xfffd)].any fun r => r.1 ≤ n && n ≤ r.2

/-- A name with a low line for each stretch of characters that cannot be part of it. -/
def cleanName : List Char → List Char
  | [] => []
  | c :: cs =>
    if isNameChar c then c :: cleanName cs
    else
      match cs with
      | [] => ['_']
      | d :: _ => if isNameChar d then '_' :: cleanName cs else cleanName cs

/-- The attributes with one more, or with a new value for one. -/
def writeAttribute (name : String) (value : List Char) :
    List (String × List Char) → List (String × List Char)
  | [] => [(name, value)]
  | (n, v) :: rest =>
    if n = name then (n, value) :: rest else (n, v) :: writeAttribute name value rest

/-- The attributes with the entries of a list. Classes are added to those there are. -/
def addEntries (entries : List (List Char × List Char)) (attributes : List (String × List Char)) :
    List (String × List Char) :=
  entries.foldl (fun as e =>
    if e.1 = ['.'] then
      match (as.find? fun a => a.1 == "class").map (·.2) with
      | some (c :: cs) => writeAttribute "class" (c :: cs ++ ' ' :: e.2) as
      | _ => writeAttribute "class" e.2 as
    else writeAttribute (String.ofList (cleanName e.1)) e.2 as) attributes

/-! ## Finding a list -/

/-- Whether the piece is a space. -/
def isSpacePiece : Piece → Bool :=
  isChar ' '

/-- The text between braces at the start of a text up to the last closing brace of the line, and
what follows that brace. A colon in front is no part of it, unless nothing else is there. -/
def braced? (ps : List Piece) : Option (List Piece × List Piece) :=
  match ps with
  | p :: rest =>
    if p.isChar '\x7b' then
      let line := rest.takeWhile fun q => !q.isChar '\n'
      let after := rest.drop line.length
      match line.reverse.dropWhile fun q => !q.isChar '\x7d' with
      | [] => none
      | _ :: inner =>
        let inner := inner.reverse
        let behind := line.drop (inner.length + 1) ++ after
        let marked := (inner.head?).any (isChar ':')
        let body := (if marked then inner.drop 1 else inner).dropWhile isSpacePiece
        if (body.head?).any fun q => !q.isChar '\x7d' then some (body, behind)
        else if marked then some (inner, behind)
        else none
    else none
  | [] => none

/-- The attribute list that ends a text, and the text before it. In front of the list stands what
the condition asks for: a space for headings and cells, else the start of a line. -/
def listAtEnd? (afterSpace : Bool) : Nat → List Piece → List Piece →
    Option (List Piece × List Piece)
  | 0, _, _ => none
  | _, _, [] => none
  | fuel + 1, before, p :: ps =>
    let next := listAtEnd? afterSpace fuel (p :: before) ps
    if (if afterSpace then isSpacePiece p else p.isChar '\n') then
      match braced? (ps.dropWhile isSpacePiece) with
      | some (list, behind) =>
        if behind.all isSpacePiece then some (before.reverse, list) else next
      | none => next
    else next

/-- The attributes and the text of a block whose text may end with an attribute list. -/
def takeList (kind : Kind) (attributes : List (String × List Char)) (text : List Piece) :
    List (String × List Char) × List Piece :=
  let isCell := kind == .headCell || kind == .bodyCell
  match listAtEnd? (kind.isHeading || isCell) (text.length + 1) [] text with
  | none => (attributes, text)
  | some (before, list) =>
    let (entries, rest) := readList (charsOf list)
    if !rest.isEmpty then (attributes, text)
    else
      let before :=
        if kind.isHeading then
          let unmarked := (before.reverse.dropWhile (isChar '#')).dropWhile isBlankPiece
          unmarked.reverse
        else before
      (addEntries entries attributes, before)

/-- The text that may end with the attribute list of a block, with what stands before and behind
it. In an item that is the text before the list in it, if there is one. -/
def listPlace (kind : Kind) (content : List Piece) : List Piece × List Piece × List Piece :=
  let lists := content.dropWhile fun p => !p.hasKind Kind.isList
  let beforeLists := content.takeWhile fun p => !p.hasKind Kind.isList
  let lead := (([] : List Piece), leadingText content, afterText content)
  if kind = .item && !lists.isEmpty then
    if beforeLists.any isElement && !(trailingText beforeLists).isEmpty then
      (beforeText beforeLists, trailingText beforeLists, lists)
    else lead
  else if content.any isElement && !(trailingText content).isEmpty then
    (beforeText content, trailingText content, [])
  else lead

/-- The attributes and the content of a block without the attribute list at its end. -/
def takeBlockList (kind : Kind) (attributes : List (String × List Char)) (content : List Piece) :
    List (String × List Char) × List Piece :=
  let (before, text, after) := listPlace kind content
  let (attributes, text) := takeList kind attributes text
  (attributes, before ++ text ++ after)

/-- The content with the attribute lists that stand directly behind inline elements. -/
def takeInlineLists : Nat → List Piece → List Piece
  | 0, ps => ps
  | _, [] => []
  | fuel + 1, p :: ps =>
    match p with
    | .element kind attributes content =>
      if kind.isBlock then p :: takeInlineLists fuel ps
      else
        let tail := leadingText ps
        match braced? tail with
        | some (list, behind) =>
          let (entries, rest) := readList (charsOf list)
          .element kind (addEntries entries attributes) content ::
            takeInlineLists fuel (behind ++ ofChars rest ++ afterText ps)
        | none => p :: takeInlineLists fuel ps
    | _ => p :: takeInlineLists fuel ps

mutual

/-- An element with all attribute lists in it read. -/
def readLists : Piece → Piece
  | .element kind attributes content =>
    let content := readListsOf content
    let (attributes, content) :=
      if kind.isBlock then takeBlockList kind attributes content else (attributes, content)
    .element kind attributes (takeInlineLists (content.length + 1) content)
  | p => p

/-- The pieces with all attribute lists in elements read. -/
def readListsOf : List Piece → List Piece
  | [] => []
  | p :: ps => readLists p :: readListsOf ps

end

end Placard.Markdown
