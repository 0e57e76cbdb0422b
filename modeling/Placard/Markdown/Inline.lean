import Placard.Markdown.Block
import Placard.Markdown.Emphasis
import Placard.Markdown.Link

/-!
# Text with markup

A text is read by a fixed series of rules, each over the whole text and over the content of all
elements that earlier rules have made in it. Code comes first, then escapes, links, references to
characters and emphasis.
-/

namespace Placard.Markdown

open Placard.Text Piece

/-- Which rules hold for texts. -/
structure InlineRules where
  /-- Whether every end of a line breaks it. -/
  lineBreaks : Bool
  /-- The characters that a backslash makes literal. -/
  escapable : List Char

/-! ## Code and escapes -/

/-- The pieces up to the next run of exactly so many ticks, and what follows that run. -/
def closingRun? (size : Nat) : Nat → List Piece → Option (List Piece × List Piece)
  | 0, _ => none
  | _, [] => none
  | fuel + 1, p :: ps =>
    if p.isChar '\x60' then
      let n := ((p :: ps).takeWhile (isChar '\x60')).length
      let (run, rest) := (p :: ps).splitAt n
      if n = size then some ([], rest)
      else (closingRun? size fuel rest).map fun (text, rest) => (run ++ text, rest)
    else (closingRun? size fuel ps).map fun (text, rest) => (p :: text, rest)

/-- The longest code that begins with at most so many ticks of an opening run, and what follows. -/
def codeFrom? (run : Nat) (behind : List Piece) : Nat → Option (List Piece × List Piece)
  | 0 => none
  | size + 1 =>
    let left := List.replicate (run - (size + 1)) (char '\x60')
    match closingRun? (size + 1) (behind.length + 1) behind with
    | some (text, rest) => some (left ++ text, rest)
    | none => codeFrom? run behind size

/-- An element for code. Blanks at its ends do not count. -/
def codeElement (text : List Piece) : Piece :=
  plain .code ((trimPieces text).flatMap fun
    | .char c => ofCode [c]
    | p => [p])

/-- Code between ticks. Backslashes in pairs before ticks do not escape them. -/
def codeRule : Rule := fun before ps =>
  let slash := isChar '\\'
  if before.any slash then .nothing
  else
    match ps with
    | [] => .nothing
    | p :: _ =>
      if p.isChar '\x60' then
        let n := (ps.takeWhile (isChar '\x60')).length
        match codeFrom? n (ps.drop n) n with
        | some (text, rest) => .replaced [codeElement text] rest
        | none => .nothing
      else
        let n := (ps.takeWhile slash).length
        let rest := ps.drop n
        if 0 < n && n % 2 = 0 && rest.head?.any (isChar '\x60') then
          .replaced (List.replicate (n / 2) (literal '\\')) rest
        else .nothing

/-- Characters behind a backslash. -/
def escapeRule (escapable : List Char) : Rule := fun _ ps =>
  match ps with
  | .char '\\' :: p :: rest =>
    match p with
    | .char c => if escapable.contains c then .replaced [literal c] rest else .kept rest
    | _ => .kept rest
  | _ => .nothing

/-! ## Line breaks and references to characters -/

/-- Two spaces at the end of a line break it. -/
def hardBreakRule : Rule := fun _ ps =>
  match ps with
  | .char ' ' :: .char ' ' :: .char '\n' :: rest => .replaced [plain .lineBreak []] rest
  | _ => .nothing

/-- Every end of a line breaks it. -/
def softBreakRule : Rule := fun _ ps =>
  match ps with
  | .char '\n' :: rest => .replaced [plain .lineBreak []] rest
  | _ => .nothing

/-- The characters of a written reference up to its semicolon, given what follows the ampersand. -/
def referenceBody? (ps : List Piece) : Option (List Char × List Piece) :=
  let body := (ps.takeWhile fun p => (p.char?).any (· != ';')).filterMap char?
  match ps.drop body.length with
  | p :: rest => if p.isChar ';' && isReference body then some (body, rest) else none
  | [] => none
where
  /-- Whether the characters name a character or give its number. -/
  isReference : List Char → Bool
    | '#' :: 'x' :: ds => !ds.isEmpty && ds.all isHexDigit
    | '#' :: ds => !ds.isEmpty && ds.all isAsciiDigit
    | cs => !cs.isEmpty && cs.all fun c => isAsciiLetter c || isAsciiDigit c

/-- Written references to characters stay as they are. -/
def referenceRule : Rule := fun _ ps =>
  match ps with
  | .char '&' :: rest =>
    match referenceBody? rest with
    | some (body, rest) => .replaced [entity ('&' :: body ++ [';'])] rest
    | none => .nothing
  | _ => .nothing

/-! ## Reading -/

/-- A text with all its markup read. -/
def readInline (rules : InlineRules) (defs : Definitions) (text : List Piece) : List Piece :=
  let passes : List (List Piece → List Piece) :=
    [rewrite codeRule,
      rewrite (escapeRule rules.escapable),
      rewrite (labelRule defs linkStart? linkTo),
      rewrite (directRule linkStart? linkTo),
      rewrite (directRule imageStart? imageOf),
      rewrite (labelRule defs imageStart? imageOf),
      rewrite (shortRule defs linkStart? linkTo),
      rewrite (shortRule defs imageStart? imageOf),
      rewrite addressRule,
      rewrite mailRule,
      rewrite hardBreakRule,
      rewrite referenceRule,
      emphasize '*',
      emphasize '_'] ++
      (if rules.lineBreaks then [rewrite softBreakRule] else [])
  passes.foldl (fun ps pass => everywhere pass ps) text

/-- The content of a document with the markup of all its texts read. -/
def readTexts (rules : InlineRules) (defs : Definitions) (content : List Piece) : List Piece :=
  everywhere (onText (readInline rules defs)) content

end Placard.Markdown
