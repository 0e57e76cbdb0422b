import Placard.Markdown.Rewrite
import Placard.Text.Case

/-!
# Emphasis

A run of asterisks opens emphasis if text follows it, and closes emphasis if text stands before it.
A run of low lines does so only at the edge of a word. A closing run is matched with the nearest
open one that may be its partner; one mark is emphasis, two are strong, and three are both. Marks
that find no partner are text.

A run that could both open and close stands inside a word. It is no partner of a run if their
lengths add up to a multiple of three, unless both are such multiples: so `**a*b**` is one strong
text with an asterisk in it.
-/

namespace Placard.Markdown

open Placard.Text Piece

/-- Whether blank space, or an end of the text, stands at a place. -/
def isGap (p : Option Piece) : Bool :=
  p.all isBlankPiece

/-- Whether a word stands at a place. -/
def isWord (p : Option Piece) : Bool :=
  (p.bind char?).any isWordChar

/-- Whether a run of marks between two places opens emphasis. -/
def canOpen (mark : Char) (before after : Option Piece) : Bool :=
  !isGap after && (mark != '_' || !isWord before)

/-- Whether a run of marks between two places closes emphasis. -/
def canClose (mark : Char) (before after : Option Piece) : Bool :=
  !isGap before && (mark != '_' || !isWord after)

/-- The content with as many marks around it. -/
def emphasized : Nat → List Piece → Piece
  | 1, content => plain .emphasis content
  | 2, content => plain .strong content
  | _, content => plain .strong [plain .emphasis content]

/-- An open run: how many marks it has, how many of them are left, whether it could also close, and
the content behind it, last piece first. -/
structure OpenRun where
  size : Nat
  marks : Nat
  closes : Bool
  content : List Piece

/-- Whether an open run may be the partner of a closing run of a size that could also open. -/
def OpenRun.admits (run : OpenRun) (size : Nat) (opens : Bool) : Bool :=
  !(run.closes || opens) || (run.size + size) % 3 != 0 || (run.size % 3 == 0 && size % 3 == 0)

/-- The nearest open run with a property, and the runs before it. The marks of the runs behind it
have become text. -/
def nearest? (mark : Char) (p : OpenRun → Bool) : List OpenRun → Option (OpenRun × List OpenRun)
  | [] => none
  | run :: runs =>
    if p run then some (run, runs)
    else
      (nearest? mark p runs).map fun (found, runs) =>
        let text := run.content ++ List.replicate run.marks (char mark)
        ({ found with content := text ++ found.content }, runs)

/-- The text read so far: what stands before all open runs, last piece first, and those runs, the
nearest first. -/
structure Emphasis where
  base : List Piece
  runs : List OpenRun

namespace Emphasis

/-- The text with pieces more, last one first. -/
def push (ps : List Piece) (e : Emphasis) : Emphasis :=
  match e.runs with
  | [] => { e with base := ps ++ e.base }
  | run :: runs => { e with runs := { run with content := ps ++ run.content } :: runs }

/-- The text after a closing run of a size, of whose marks so many are left, and how many of them
found no partner. -/
def close (mark : Char) (size : Nat) (opens : Bool) : Nat → Nat → Emphasis → Emphasis × Nat
  | 0, n, e => (e, n)
  | fuel + 1, n, e =>
    if n = 0 then (e, 0)
    else
      match nearest? mark (·.admits size opens) e.runs with
      | none => (e, n)
      | some (run, runs) =>
        let k := min 3 (min run.marks n)
        let inner := emphasized k run.content.reverse
        let e :=
          if run.marks ≤ k then { e with runs }.push [inner]
          else { e with runs := { run with marks := run.marks - k, content := [inner] } :: runs }
        close mark size opens fuel (n - k) e

/-- The text behind a run of marks. -/
def run (mark : Char) (n : Nat) (before after : Option Piece) (e : Emphasis) : Emphasis :=
  let opens := canOpen mark before after
  let closes := canClose mark before after
  let (e, left) := if closes then e.close mark n opens n n else (e, n)
  if left = 0 then e
  else if opens then { e with runs := ⟨n, left, closes, []⟩ :: e.runs }
  else e.push (List.replicate left (char mark))

/-- All pieces of the text. The marks of runs that are still open are text. -/
def pieces (mark : Char) (e : Emphasis) : List Piece :=
  e.base.reverse ++ e.runs.reverse.flatMap fun run =>
    List.replicate run.marks (char mark) ++ run.content.reverse

end Emphasis

/-- The text with the pieces from a place on, given the piece before that place. -/
def readEmphasis (mark : Char) : Nat → Option Piece → List Piece → Emphasis → Emphasis
  | 0, _, _, e => e
  | _, _, [], e => e
  | fuel + 1, before, p :: ps, e =>
    if p.isChar mark then
      let n := ((p :: ps).takeWhile (isChar mark)).length
      let rest := (p :: ps).drop n
      readEmphasis mark fuel (some p) rest (e.run mark n before rest.head?)
    else readEmphasis mark fuel (some p) ps (e.push [p])

/-- The pieces with the emphasis of a mark. -/
def emphasize (mark : Char) (ps : List Piece) : List Piece :=
  (readEmphasis mark (ps.length + 1) none ps ⟨[], []⟩).pieces mark

end Placard.Markdown
