import Placard.Text.Blank
import Placard.Text.Case

/-!
# Paths of files

A path is kept without what does not change where it leads: steps that stay in place and repeated
slashes. Its suffix is what follows the last point of its last step, together with that point; a
point at either end of the step begins no suffix.
-/

namespace Placard.File

open Placard.Text

/-- A path: the slashes it begins with and its steps. -/
structure Path where
  root : List Char
  steps : List (List Char)
deriving DecidableEq

namespace Path

/-- The slashes that a text begins with as far as they count: two are not the same as one, more
are. -/
def rootOf : List Char → List Char
  | ['/', '/'] => ['/', '/']
  | '/' :: '/' :: c :: _ => if c = '/' then ['/'] else ['/', '/']
  | '/' :: _ => ['/']
  | _ => []

/-- The path that a text gives. -/
def ofText (s : String) : Path :=
  let cs := s.toList
  { root := rootOf cs
    steps := (cutAt '/' cs).filter fun step => !step.isEmpty && step != ['.'] }

/-- The text of a path. -/
def text (p : Path) : String :=
  let cs := p.root ++ joinWith ['/'] p.steps
  if cs.isEmpty then "." else String.ofList cs

/-- The last step of a path. -/
def name (p : Path) : List Char :=
  p.steps.getLast?.getD []

/-- The suffix of the last step, or nothing. -/
def suffix (p : Path) : List Char :=
  let after := p.name.reverse.takeWhile (· != '.')
  let before := (p.name.reverse.dropWhile (· != '.')).drop 1
  if after.isEmpty || before.isEmpty then [] else '.' :: after.reverse

/-- The suffix in small letters. -/
def kind (p : Path) : String :=
  String.ofList (lower p.suffix)

end Path

end Placard.File
