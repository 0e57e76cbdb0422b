import Placard.Text.Blank

/-!
# Files of variables

A file of variables has one assignment a line: a name, an equals sign and a value. Names and values
may stand between quotes, and a quoted value may run over several lines. A sharp sign begins a
comment. Lines that are no assignments are skipped.

A value may refer to other variables, as `${NAME}` or, with a default, as `${NAME:-default}`.
-/

namespace Placard.EnvFile

open Placard.Text

/-! ## Assignments -/

/-- Whether a character is a blank within a line. -/
def isGap (c : Char) : Bool :=
  isBlank c && c != '\n'

/-- The text after blanks within the line. -/
def skipGap (cs : List Char) : List Char :=
  cs.dropWhile isGap

/-- The text after the rest of the line. -/
def skipLine (cs : List Char) : List Char :=
  (cs.dropWhile (· != '\n')).drop 1

/-- A quoted text up to its closing quote, and the rest. The first quote without a backslash before
it closes the text, or else the last quote that there is. -/
def untilQuote? (q : Char) : List Char → Option (List Char × List Char)
  | [] => none
  | [c] => if c = q then some ([], []) else none
  | c :: d :: rest =>
    if c = '\\' && d = q then
      match untilQuote? q rest with
      | some (value, rest) => some (c :: d :: value, rest)
      | none => some ([c], rest)
    else if c = q then some ([], d :: rest)
    else (untilQuote? q (d :: rest)).map fun p => (c :: p.1, p.2)

/-- What a letter after a backslash stands for between double quotes. -/
def doubleEscape? : Char → Option Char
  | '\\' => some '\\'
  | '\x27' => some '\x27'
  | '"' => some '"'
  | 'a' => some '\x07'
  | 'b' => some '\x08'
  | 'f' => some '\x0c'
  | 'n' => some '\n'
  | 'r' => some '\r'
  | 't' => some '\t'
  | 'v' => some '\x0b'
  | _ => none

/-- What a character after a backslash stands for between single quotes. -/
def singleEscape? : Char → Option Char
  | '\\' => some '\\'
  | '\x27' => some '\x27'
  | _ => none

/-- A text with its escapes read. -/
def unescaped (escape? : Char → Option Char) : List Char → List Char
  | [] => []
  | [c] => [c]
  | c :: d :: rest =>
    if c = '\\' then
      match escape? d with
      | some e => e :: unescaped escape? rest
      | none => c :: unescaped escape? (d :: rest)
    else c :: unescaped escape? (d :: rest)

/-- A value without quotes: the rest of a line without a comment, which begins with a sharp sign
after a blank. -/
def bare (line : List Char) : List Char :=
  dropTrailing isBlank (beforeComment none line)
where
  /-- The line up to a comment, given the character before it. -/
  beforeComment (before : Option Char) : List Char → List Char
    | [] => []
    | c :: cs => if c = '#' && before.any isBlank then [] else c :: beforeComment (some c) cs

/-- A value, and the rest. -/
def value? (cs : List Char) : Option (List Char × List Char) :=
  match cs with
  | '\x27' :: rest => (untilQuote? '\x27' rest).map fun p => (unescaped singleEscape? p.1, p.2)
  | '"' :: rest => (untilQuote? '"' rest).map fun p => (unescaped doubleEscape? p.1, p.2)
  | _ => some (bare (cs.takeWhile (· != '\n')), cs.dropWhile (· != '\n'))

/-- A name, and the rest. -/
def name? (cs : List Char) : Option (List Char × List Char) :=
  match cs with
  | '\x27' :: rest =>
    match rest.takeWhile (· != '\x27'), rest.dropWhile (· != '\x27') with
    | [], _ => none
    | _, [] => none
    | name, _ :: rest => some (name, rest)
  | _ =>
    let isPart := fun c : Char => c != '=' && c != '#' && !isBlank c
    match cs.takeWhile isPart with
    | [] => none
    | name => some (name, cs.dropWhile isPart)

/-- The text after the word that may stand before a name. -/
def skipExport (cs : List Char) : List Char :=
  match afterStart? "export".toList cs with
  | some (c :: rest) => if isGap c then skipGap rest else cs
  | _ => cs

/-- The rest after a comment and the end of the line, if nothing else is there. -/
def lineEnd? (cs : List Char) : Option (List Char) :=
  let cs := skipGap cs
  let cs := if cs.head? = some '#' then cs.dropWhile (· != '\n') else cs
  match cs with
  | [] => some []
  | c :: rest => if c = '\n' then some rest else none

/-- The assignment that the text begins with, if it is one, and the rest. -/
def assignment (cs : List Char) : Option (List Char × Option (List Char)) × List Char :=
  let cs := skipExport cs
  if cs.head? = some '#' then (none, skipLine cs)
  else
    match name? cs with
    | none => (none, skipLine cs)
    | some (name, rest) =>
      match skipGap rest with
      | '=' :: rest =>
        let rest := skipGap rest
        match value? rest with
        | none => (none, skipLine rest)
        | some (value, rest) =>
          match lineEnd? rest with
          | some rest => (some (name, some value), rest)
          | none => (none, skipLine rest)
      | rest =>
        match lineEnd? rest with
        | some rest => (some (name, none), rest)
        | none => (none, skipLine rest)

/-- The assignments of a text, of at most this many lines. -/
def assignmentsIn : Nat → List Char → List (List Char × Option (List Char))
  | 0, _ => []
  | count + 1, cs =>
    match cs.dropWhile isBlank with
    | [] => []
    | cs =>
      match assignment cs with
      | (some a, rest) => a :: assignmentsIn count rest
      | (none, rest) => assignmentsIn count rest

/-- The assignments of a text. A name may stand without a value. -/
def assignments (cs : List Char) : List (List Char × Option (List Char)) :=
  assignmentsIn (cs.length + 1) cs

/-! ## References -/

/-- The variables known so far. -/
abbrev Known :=
  List (String × String)

/-- The value of a variable. Later entries win. -/
def lookUp? (known : Known) (name : String) : Option String :=
  (known.reverse.find? fun v => v.1 == name).map (·.2)

/-- The reference that follows a dollar sign: its name, its default, and the rest. -/
def reference? : List Char → Option (List Char × List Char × List Char)
  | '\x7b' :: cs =>
    let isName := fun c : Char => c != '\x7d' && c != ':'
    match cs.dropWhile isName with
    | ':' :: '-' :: rest =>
      match rest.dropWhile (· != '\x7d') with
      | _ :: after => some (cs.takeWhile isName, rest.takeWhile (· != '\x7d'), after)
      | [] => none
    | '\x7d' :: rest => some (cs.takeWhile isName, [], rest)
    | _ => none
  | _ => none

/-- A value with its references replaced, of at most this many characters. -/
def resolveIn (known : Known) : Nat → List Char → List Char
  | 0, cs => cs
  | _ + 1, [] => []
  | count + 1, c :: cs =>
    match if c = '$' then reference? cs else none with
    | some (name, default, rest) =>
      (match lookUp? known (String.ofList name) with
        | some value => value.toList
        | none => default) ++ resolveIn known count rest
    | none => c :: resolveIn known count cs

/-- A value with its references replaced. -/
def resolve (known : Known) (cs : List Char) : List Char :=
  resolveIn known (cs.length + 1) cs

/-- The variables of a file, given those of the environment: each with its value, if it has one. A
reference sees the variables above it. -/
def bindings (environment : Known) (cs : List Char) : List (String × Option String) :=
  go environment (assignments cs)
where
  /-- The rest of the variables, given those known so far. -/
  go (known : Known) : List (List Char × Option (List Char)) → List (String × Option String)
    | [] => []
    | (name, none) :: rest =>
      let name := String.ofList name
      (name, none) :: go (known ++ [(name, "")]) rest
    | (name, some value) :: rest =>
      let name := String.ofList name
      let value := String.ofList (resolve known value)
      (name, some value) :: go (known ++ [(name, value)]) rest

end Placard.EnvFile
