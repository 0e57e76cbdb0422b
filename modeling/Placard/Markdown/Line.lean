import Placard.Text.Blank
import Placard.Text.Digit

/-!
# What a line begins

Blocks are recognised by their lines. Each recogniser takes a line without its end and gives what is
behind the mark, if the line begins with one. A mark may stand behind up to three spaces.
-/

namespace Placard.Markdown

open Placard.Text

/-- The width of one level of indentation. -/
def indentWidth : Nat := 4

/-- The number of spaces that a line begins with. -/
def leadingSpaces (line : List Char) : Nat :=
  (line.takeWhile (· == ' ')).length

/-- Whether a text begins with a full level of indentation. -/
def isIndented (cs : List Char) : Bool :=
  startsWith (List.replicate indentWidth ' ') cs

/-- The line behind fewer spaces than a level of indentation. -/
def outdented? (line : List Char) : Option (List Char) :=
  if leadingSpaces line < indentWidth then some (line.dropWhile (· == ' ')) else none

/-- What follows the spaces behind a mark; there is at least one. -/
def behindSpaces? : List Char → Option (List Char)
  | ' ' :: rest => some (rest.dropWhile (· == ' '))
  | _ => none

/-- Whether the character marks an item of a bullet list. -/
def isBullet (c : Char) : Bool :=
  c == '*' || c == '+' || c == '-'

/-- The content of an item of a bullet list. -/
def bulletMark? : List Char → Option (List Char)
  | c :: rest => if isBullet c then behindSpaces? rest else none
  | [] => none

/-- The number and the content of an item of a numbered list. -/
def numberMark? (cs : List Char) : Option (List Char × List Char) :=
  let isDigit := fun c => (digitValue? c).isSome
  match cs.takeWhile isDigit, cs.dropWhile isDigit with
  | [], _ => none
  | digits, '.' :: rest => (behindSpaces? rest).map fun content => (digits, content)
  | _, _ => none

/-- The content of a bullet item that the line begins. -/
def bulletItem? (line : List Char) : Option (List Char) :=
  (outdented? line).bind bulletMark?

/-- The number and content of a numbered item that the line begins. -/
def numberedItem? (line : List Char) : Option (List Char × List Char) :=
  (outdented? line).bind numberMark?

/-- Whether the line begins an item that is indented by one level, and by less than two. -/
def isIndentedItem (line : List Char) : Bool :=
  let n := leadingSpaces line
  let rest := line.dropWhile (· == ' ')
  indentWidth ≤ n && n < 2 * indentWidth && ((bulletMark? rest).isSome || (numberMark? rest).isSome)

/-- The line behind the mark of a quote and one space. -/
def quoted? (line : List Char) : Option (List Char) :=
  match outdented? line with
  | some ('>' :: ' ' :: rest) => some rest
  | some ('>' :: rest) => some rest
  | _ => none

/-- The text of a heading up to the number signs that close it. A backslash takes the next character
along, and there has to be one. -/
def headingText? : List Char → Option (List Char)
  | [] => some []
  | '\\' :: c :: rest => (headingText? rest).map fun text => '\\' :: c :: text
  | c :: rest =>
    if (c :: rest).all (· == '#') then some []
    else if c = '\\' then none
    else (headingText? rest).map (c :: ·)

/-- The level and text of a heading that the line is. -/
def heading? (line : List Char) : Option (Nat × List Char) :=
  let level := min 6 (line.takeWhile (· == '#')).length
  if level = 0 then none
  else (headingText? (line.drop level)).map fun text => (level, trim text)

/-- Whether the line underlines a heading. -/
def isUnderline (line : List Char) : Bool :=
  match line with
  | c :: _ =>
    (c == '=' || c == '-') &&
      (line.dropWhile fun c => c == '=' || c == '-').all (· == ' ')
  | [] => false

/-- Whether the rest of a line holds only a mark, with at most two spaces between two of them, and
at least so many of them. -/
def onlyMarks (mark : Char) : Nat → Nat → List Char → Bool
  | needed, _, [] => needed == 0
  | needed, gap, c :: rest =>
    if c = mark then gap ≤ 2 && onlyMarks mark (needed - 1) 0 rest
    else c == ' ' && onlyMarks mark needed (gap + 1) rest

/-- Whether the line is a rule across the page. -/
def isRule (line : List Char) : Bool :=
  match outdented? line with
  | some (c :: rest) => (c == '-' || c == '_' || c == '*') && onlyMarks c 2 0 rest
  | _ => false

/-- The lines as one text. -/
def unlines (lines : List (List Char)) : List Char :=
  joinWith ['\n'] lines

/-- The lines before the first one that satisfies a condition, that line, and those behind it. -/
def splitAtLine {α : Type} (p : List Char → Option α) :
    List (List Char) → Option (List (List Char) × α × List (List Char))
  | [] => none
  | line :: rest =>
    match p line with
    | some a => some ([], a, rest)
    | none => (splitAtLine p rest).map fun (before, a, after) => (line :: before, a, after)

end Placard.Markdown
