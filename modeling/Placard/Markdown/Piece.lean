import Placard.Text.Blank

/-!
# Pieces of marked-up text

A document is a list of pieces. Three of them are text:

* `char`: a character that rules may still read as markup;
* `literal`: a character that no rule reads any more, such as one behind a backslash;
* `entity`: a written character reference, which is kept as it is.

The fourth is an element with its own pieces. Elements come from a closed vocabulary, so no text can
bring in another one.
-/

namespace Placard.Markdown

open Placard.Text

/-- What an element stands for. -/
inductive Kind where
  | paragraph
  | heading (level : Nat)
  | bulletList
  | numberedList
  | item
  | quote
  | codeBlock
  | code
  | rule
  | lineBreak
  | link
  | image
  | emphasis
  | strong
  | table
  | tableHead
  | tableBody
  | tableRow
  | headCell
  | bodyCell
deriving DecidableEq

namespace Kind

/-- The name of the element in XHTML. -/
def name : Kind → String
  | paragraph => "p"
  | heading level => String.ofList ['h', Char.ofNat (48 + level)]
  | bulletList => "ul"
  | numberedList => "ol"
  | item => "li"
  | quote => "blockquote"
  | codeBlock => "pre"
  | code => "code"
  | rule => "hr"
  | lineBreak => "br"
  | link => "a"
  | image => "img"
  | emphasis => "em"
  | strong => "strong"
  | table => "table"
  | tableHead => "thead"
  | tableBody => "tbody"
  | tableRow => "tr"
  | headCell => "th"
  | bodyCell => "td"

/-- Whether the element stands on its own, and not inside a line of text. -/
def isBlock : Kind → Bool
  | code | lineBreak | link | image | emphasis | strong => false
  | _ => true

/-- Whether the element is a list. -/
def isList : Kind → Bool
  | bulletList | numberedList => true
  | _ => false

/-- Whether the element is a heading. -/
def isHeading : Kind → Bool
  | heading _ => true
  | _ => false

/-- Whether the element has neither content nor end tag. -/
def isVoid : Kind → Bool
  | rule | lineBreak | image => true
  | _ => false

end Kind

/-- A piece of text or an element. -/
inductive Piece where
  | char (c : Char)
  | literal (c : Char)
  | entity (written : List Char)
  | element (kind : Kind) (attributes : List (String × List Char)) (content : List Piece)
deriving Inhabited

namespace Piece

/-- The text of a list of characters that may hold markup. -/
def ofChars (cs : List Char) : List Piece :=
  cs.map char

/-- The text of a list of characters that hold no markup. -/
def ofLiteral (cs : List Char) : List Piece :=
  cs.map literal

/-- An element without attributes. -/
def plain (kind : Kind) (content : List Piece) : Piece :=
  element kind [] content

/-- Whether the piece is this character, still open to rules. -/
def isChar (c : Char) : Piece → Bool
  | char d => c == d
  | _ => false

/-- The character of a piece that is still open to rules. -/
def char? : Piece → Option Char
  | char c => some c
  | _ => none

/-- Whether the piece is an element. -/
def isElement : Piece → Bool
  | element _ _ _ => true
  | _ => false

/-- Whether the piece is an element of a kind. -/
def hasKind (p : Kind → Bool) : Piece → Bool
  | element kind _ _ => p kind
  | _ => false

/-- Whether the piece is a blank. -/
def isBlankPiece : Piece → Bool
  | char c => isBlank c
  | _ => false

/-- The text at the start of some content, up to the first element. -/
def leadingText (ps : List Piece) : List Piece :=
  ps.takeWhile fun p => !p.isElement

/-- The content without the text at its start. -/
def afterText (ps : List Piece) : List Piece :=
  ps.dropWhile fun p => !p.isElement

/-- The text at the end of some content, behind the last element. -/
def trailingText (ps : List Piece) : List Piece :=
  (ps.reverse.takeWhile fun p => !p.isElement).reverse

/-- The content without the text at its end. -/
def beforeText (ps : List Piece) : List Piece :=
  (ps.reverse.dropWhile fun p => !p.isElement).reverse

/-- The content without the blanks at either end. -/
def trimPieces (ps : List Piece) : List Piece :=
  ((ps.dropWhile isBlankPiece).reverse.dropWhile isBlankPiece).reverse

mutual

/-- The characters of a piece with everything in it. -/
def chars : Piece → List Char
  | char c => [c]
  | literal c => [c]
  | entity written => written
  | element _ _ content => charsOf content

/-- The characters of some content. -/
def charsOf : List Piece → List Char
  | [] => []
  | p :: ps => chars p ++ charsOf ps

end

/-- The characters of some content, if all of it is still open to rules. -/
def openChars? (ps : List Piece) : Option (List Char) :=
  ps.mapM char?

end Piece

/-- The last element of some content, with what stands before and behind it. -/
def lastElement? (ps : List Piece) : Option (List Piece × Piece × List Piece) :=
  match (Piece.beforeText ps).reverse with
  | [] => none
  | p :: before => some (before.reverse, p, Piece.trailingText ps)

end Placard.Markdown
