import Placard.Markdown.Piece

/-!
# Rewriting pieces

Inside a line of text each rule is one pass over all pieces. A rule looks at a place, with the piece
before it, and says what stands there. After every replacement the search starts again from the
beginning, since it may have completed something that began earlier.
-/

namespace Placard.Markdown

open Piece

/-- What a rule says about a place. -/
inductive Finding where
  /-- Nothing begins here. -/
  | nothing
  /-- Something begins here that stays as it is; the search goes on behind it. -/
  | kept (rest : List Piece)
  /-- What begins here becomes other pieces. -/
  | replaced (new rest : List Piece)

/-- A rule: what stands at a place, given the piece before it and those from it on. -/
abbrev Rule := Option Piece → List Piece → Finding

/-- The pieces after the first replacement from a place on. Those before it come last first. -/
def replaceFirst? (rule : Rule) : Nat → List Piece → List Piece → Option (List Piece)
  | 0, _, _ => none
  | _, _, [] => none
  | fuel + 1, before, p :: ps =>
    match rule before.head? (p :: ps) with
    | .nothing => replaceFirst? rule fuel (p :: before) ps
    | .kept rest =>
      let skipped := (p :: ps).take (ps.length + 1 - rest.length)
      replaceFirst? rule fuel (skipped.reverse ++ before) rest
    | .replaced new rest => some (before.reverse ++ new ++ rest)

/-- The pieces after so many replacements, or as many as there are. -/
def replaceUpTo (rule : Rule) : Nat → List Piece → List Piece
  | 0, ps => ps
  | n + 1, ps =>
    match replaceFirst? rule (ps.length + 1) [] ps with
    | some ps => replaceUpTo rule n ps
    | none => ps

/-- The pieces after all replacements. -/
def rewrite (rule : Rule) (ps : List Piece) : List Piece :=
  replaceUpTo rule (ps.length + 1) ps

mutual

/-- A piece with all content in it changed, innermost first. -/
def changeInside (f : List Piece → List Piece) : Piece → Piece
  | .element kind attributes content => .element kind attributes (f (changeEach f content))
  | p => p

/-- The pieces with all content in them changed. -/
def changeEach (f : List Piece → List Piece) : List Piece → List Piece
  | [] => []
  | p :: ps => changeInside f p :: changeEach f ps

end

/-- Some content changed together with all content in it, innermost first. -/
def everywhere (f : List Piece → List Piece) (content : List Piece) : List Piece :=
  f (changeEach f content)

/-- The content with each stretch of text in it changed. -/
def onText (f : List Piece → List Piece) (content : List Piece) : List Piece :=
  go content []
where
  /-- The rest of the content, given the stretch of text before it, last piece first. -/
  go : List Piece → List Piece → List Piece
    | [], [] => []
    | [], text => f text.reverse
    | p :: ps, text =>
      if p.isElement then
        (if text.isEmpty then [] else f text.reverse) ++ p :: go ps []
      else go ps (p :: text)

end Placard.Markdown
