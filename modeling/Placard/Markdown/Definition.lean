import Placard.Markdown.Line
import Placard.Text.Case

/-!
# Link definitions

A definition gives a label a target and perhaps a title: `[label]: target "title"`. The target may
stand on the next line, and so may the title. Labels are compared in small letters.
-/

namespace Placard.Markdown

open Placard.Text

/-- The target and the title of a label. -/
structure Definition where
  label : List Char
  target : List Char
  title : Option (List Char)
deriving DecidableEq

/-- The definitions of a document, the latest first. -/
abbrev Definitions := List Definition

/-- The latest definition of a label. -/
def Definitions.find? (ds : Definitions) (label : List Char) : Option Definition :=
  List.find? (fun d => d.label == label) ds

/-- Whether a line ends here. -/
def atLineEnd : List Char → Bool
  | [] => true
  | c :: _ => c == '\n'

/-- The text without the spaces at its start. -/
def skipSpaces (cs : List Char) : List Char :=
  cs.dropWhile (· == ' ')

/-- The rest of the line and what follows from its end on. -/
def spanLine (cs : List Char) : List Char × List Char :=
  cs.span (· != '\n')

/-- A title that fills the rest of the line, and what follows the line. -/
def title? (cs : List Char) : Option (List Char × List Char) :=
  let (line, after) := spanLine cs
  match line with
  | [] => none
  | start :: rest =>
    let close := if start = '(' then ')' else start
    if start = '(' || start = '"' || start = '\x27' then
      match (dropTrailing (· == ' ') rest).reverse with
      | last :: inner => if last = close then some (inner.reverse, after) else none
      | [] => none
    else none

/-- What may follow a target: a title, on the same line or on the next one, or the end of the
line. -/
def behindTarget? (cs : List Char) : Option (Option (List Char) × List Char) :=
  let rest := skipSpaces cs
  let sameLine : Option (Option (List Char) × List Char) :=
    match title? rest with
    | some (t, after) => some (some t, after)
    | none => if atLineEnd rest then some (none, rest) else none
  match rest with
  | '\n' :: next =>
    let next := skipSpaces next
    match title? next with
    | some (t, after) => some (some t, after)
    | none => if atLineEnd next then some (none, next) else sameLine
  | _ => sameLine

/-- The longest target that leaves behind it what may follow a target. The target comes last
character first. -/
def longestTarget? : List Char → List Char → Option (List Char × Option (List Char) × List Char)
  | [], _ => none
  | c :: target, rest =>
    match behindTarget? rest with
    | some (t, after) => some ((c :: target).reverse, t, after)
    | none => longestTarget? target (c :: rest)

/-- The definition that begins a text, and what follows it. -/
def definition? (cs : List Char) : Option (Definition × List Char) :=
  match outdented? cs with
  | some ('[' :: rest) =>
    let label := rest.takeWhile fun c => c != '[' && c != ']'
    match rest.drop label.length with
    | ']' :: ':' :: rest =>
      let rest := skipSpaces rest
      let rest :=
        match rest with
        | '\n' :: next => skipSpaces next
        | _ => rest
      let target := rest.takeWhile fun c => !isBlank c
      match longestTarget? target.reverse (rest.drop target.length) with
      | none => none
      | some (target, t, after) =>
        let target := dropTrailing (· == '>') (dropLeading (· == '<') target)
        some (⟨lower (trim label), target, t.filter fun t => !t.isEmpty⟩, after)
    | _ => none
  | _ => none

/-- The first definition that begins a line of a block: the text before it, the definition, and the
text behind it. -/
def firstDefinition? (block : List Char) : Option (List Char × Definition × List Char) :=
  go (block.length + 1) [] block
where
  /-- The search from a line on, given the text before it, last character first. -/
  go : Nat → List Char → List Char → Option (List Char × Definition × List Char)
    | 0, _, _ => none
    | fuel + 1, before, cs =>
      match definition? cs with
      | some (d, after) => some (before.reverse, d, after)
      | none =>
        let (line, after) := spanLine cs
        match after with
        | '\n' :: next => go fuel ('\n' :: line.reverse ++ before) next
        | _ => none

end Placard.Markdown
