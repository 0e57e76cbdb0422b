import Placard.Markdown.Piece
import Placard.Text.Case
import Placard.Text.Digit

/-!
# Writing documents as XHTML

Block elements stand on lines of their own. Every character of a text is escaped, except that an
ampersand which begins a written reference is kept. Void elements are closed by a slash.
-/

namespace Placard.Markdown

open Placard.Text Piece

/-! ## Lines -/

/-- Whether the text is blank. -/
def isBlankText (ps : List Piece) : Bool :=
  ps.all isBlankPiece

/-- The text behind an element: a block and a line break end a line. -/
def behindElement (p : Piece) (text : List Piece) : List Piece :=
  if p.hasKind (· == .lineBreak) then
    char '\n' :: (if isBlankText text then [] else text)
  else if p.hasKind Kind.isBlock && isBlankText text then [char '\n']
  else text

/-- The content with a line end behind each block and line break in it. -/
def breakLines : Nat → List Piece → List Piece
  | 0, ps => ps
  | _, [] => []
  | fuel + 1, p :: ps =>
    if p.isElement then
      p :: behindElement p (leadingText ps) ++ breakLines fuel (afterText ps)
    else p :: breakLines fuel ps

/-- The content of an element, in lines. If it begins with a block, so does a new line. -/
def laidOut (content : List Piece) : List Piece :=
  let content := breakLines (content.length + 1) content
  if isBlankText (leadingText content) && (afterText content).head?.any (hasKind Kind.isBlock) then
    char '\n' :: afterText content
  else content

/-- The content of a code block. Its last line has an end and is not blank. -/
def codeLaidOut : List Piece → List Piece
  | element .code attributes code :: rest =>
    let kept := code.reverse.dropWhile fun p => (chars p).all isBlank
    element .code attributes (kept.reverse ++ [literal '\n']) :: rest
  | content => content

mutual

/-- An element with all content in it in lines. -/
def inLines : Piece → Piece
  | .element kind attributes content =>
    let content := inLinesEach content
    .element kind attributes
      (if kind == .codeBlock then codeLaidOut content else laidOut content)
  | p => p

/-- The pieces with all content in them in lines. -/
def inLinesEach : List Piece → List Piece
  | [] => []
  | p :: ps => inLines p :: inLinesEach ps

end

/-! ## Escapes -/

/-- Whether a character can be part of a character's name. Besides the letters and digits of ASCII
these are the four letters that become ASCII letters when case is ignored. -/
def isReferenceChar (c : Char) : Bool :=
  isAsciiLetter c || isAsciiDigit c || c == '\u0130' || c == '\u0131' || c == '\u017f' ||
    c == '\u212a'

/-- Whether a written reference follows an ampersand. -/
def followsReference (cs : List Char) : Bool :=
  let ends := fun (p : Char → Bool) (cs : List Char) =>
    (cs.head?).any p && (cs.dropWhile p).head? == some ';'
  match cs with
  | '#' :: c :: rest =>
    if c = 'x' || c = 'X' then ends isHexDigit rest else ends isAsciiDigit (c :: rest)
  | _ => ends isReferenceChar cs

/-- A text in written form. Quotes are escaped inside attributes only. -/
def escapeText (inAttribute : Bool) : List Char → List Char
  | [] => []
  | c :: cs =>
    let written :=
      if c = '&' then (if followsReference cs then ['&'] else "&amp;".toList)
      else if c = '<' then "&lt;".toList
      else if c = '>' then "&gt;".toList
      else if c = '"' && inAttribute then "&quot;".toList
      else [c]
    written ++ escapeText inAttribute cs

/-! ## Writing -/

/-- The attributes with one more, in the order of their names. -/
def insertSorted (a : String × List Char) : List (String × List Char) → List (String × List Char)
  | [] => [a]
  | b :: rest => if b.1 < a.1 then b :: insertSorted a rest else a :: b :: rest

/-- The attributes in written form, in the order of their names. -/
def writtenAttributes (attributes : List (String × List Char)) : List Char :=
  (attributes.foldr insertSorted []).flatMap fun a =>
    ' ' :: a.1.toList ++ '=' :: '"' :: escapeText true a.2 ++ ['"']

/-- An element around content that is already written. -/
def writtenElement (kind : Kind) (attributes : List (String × List Char)) (content : List Char) :
    List Char :=
  let start := '<' :: kind.name.toList ++ writtenAttributes attributes
  if kind.isVoid then start ++ " />".toList
  else start ++ '>' :: content ++ '<' :: '/' :: kind.name.toList ++ ['>']

mutual

/-- A piece in written form; the characters before it, last one first, are still to be escaped. -/
def writePiece (pending : List Char) : Piece → List Char × List Char
  | .char c => ([], c :: pending)
  | .literal c => ([], c :: pending)
  | .entity written => (escapeText false pending.reverse ++ written, [])
  | .element kind attributes content =>
    (escapeText false pending.reverse ++ writtenElement kind attributes (writePieces [] content),
      [])

/-- Some content in written form. -/
def writePieces (pending : List Char) : List Piece → List Char
  | [] => escapeText false pending.reverse
  | p :: ps =>
    let (written, pending) := writePiece pending p
    written ++ writePieces pending ps

end

/-- A document in written form, without blanks at its ends. -/
def writeDocument (content : List Piece) : List Char :=
  trim (writePieces [] content)

end Placard.Markdown
