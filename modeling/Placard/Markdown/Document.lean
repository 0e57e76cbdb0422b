import Placard.Markdown.AttributeList
import Placard.Markdown.Inline
import Placard.Markdown.Xhtml

/-!
# Markdown documents

`toXhtml` reads a text as Markdown and writes it as XHTML. Markup of HTML in the text is text: no
rule reads it. Extensions are given by name.
-/

namespace Placard.Markdown

open Placard.Text

/-- An extension of the language. -/
inductive Extension where
  | separateLists
  | lineBreaks
  | tables
  | attributeLists
deriving DecidableEq

namespace Extension

/-- The name of the extension. -/
def name : Extension → String
  | separateLists => "sane_lists"
  | lineBreaks => "nl2br"
  | tables => "tables"
  | attributeLists => "attr_list"

/-- All extensions. -/
def all : List Extension :=
  [separateLists, lineBreaks, tables, attributeLists]

/-- The extension with a name, which may be qualified. -/
def ofName? (name : String) : Option Extension :=
  all.find? fun e => e.name == name || "markdown.extensions." ++ e.name == name

end Extension

/-- The names of the extensions that hold when none are given. -/
def defaultExtensions : List String :=
  ["sane_lists"]

/-- No extension has this name. -/
structure UnknownExtension where
  name : String
deriving DecidableEq

/-- The first part of the qualified name that names nothing. What stands behind a colon does not
belong to the name. -/
def UnknownExtension.module (u : UnknownExtension) : String :=
  let parts := cutAt '.' (u.name.toList.takeWhile (· != ':'))
  let known := ["markdown".toList, "extensions".toList]
  let n := if known.isPrefixOf parts then 3 else if [known.headD []].isPrefixOf parts then 2 else 1
  String.ofList (joinWith ['.'] (parts.take n))

/-- The wording. -/
def UnknownExtension.message (u : UnknownExtension) : String :=
  "No module named '" ++ u.module ++ "'"

/-- The extensions with these names. -/
def extensionsNamed : List String → Except UnknownExtension (List Extension)
  | [] => .ok []
  | name :: names =>
    match Extension.ofName? name with
    | none => .error ⟨name⟩
    | some e => (extensionsNamed names).map (e :: ·)

/-- The characters that a backslash always makes literal. -/
def escapable : List Char :=
  ['\\', '\x60', '*', '_', '\x7b', '\x7d', '[', ']', '(', ')', '>', '#', '+', '-', '.', '!']

/-- The text with spaces for tabs, given the column it begins in. -/
def expandTabs : Nat → List Char → List Char
  | _, [] => []
  | column, c :: cs =>
    if c = '\t' then
      let n := indentWidth - column % indentWidth
      List.replicate n ' ' ++ expandTabs (column + n) cs
    else c :: expandTabs (if c = '\n' then 0 else column + 1) cs

/-- The text with line feeds for all ends of lines. -/
def unifyLineEnds : List Char → List Char
  | [] => []
  | '\r' :: '\n' :: cs => '\n' :: unifyLineEnds cs
  | c :: cs => (if c = '\r' then '\n' else c) :: unifyLineEnds cs

/-- The text with nothing in lines of spaces, except the first line. -/
def emptyBlankLines (cs : List Char) : List Char :=
  match lines cs with
  | [] => []
  | first :: rest =>
    let emptied := rest.dropLast.map fun line => if line.all (· == ' ') then [] else line
    unlines (first :: emptied ++ (rest.getLast?).toList)

/-- The text as blocks are read from it: without the two marks that frame protected text, with
spaces for tabs, and with a blank line at its end. -/
def normalized (cs : List Char) : List Char :=
  let kept := cs.filter fun c => c != '\x02' && c != '\x03'
  emptyBlankLines (expandTabs 0 (unifyLineEnds kept ++ ['\n', '\n']))

/-- The content of a text. -/
def readDocument (extensions : List Extension) (cs : List Char) : List Piece :=
  let tables := extensions.contains .tables
  let (content, defs) :=
    readText ⟨extensions.contains .separateLists, tables⟩ (normalized cs)
  let inline : InlineRules :=
    { lineBreaks := extensions.contains .lineBreaks
      escapable := if tables then '|' :: escapable else escapable }
  let content := laidOut (inLinesEach (readTexts inline defs content))
  if extensions.contains .attributeLists then readListsOf content else content

/-- The XHTML of a text. -/
def toXhtml (extensions : List String) (text : String) :
    Except UnknownExtension String :=
  (extensionsNamed extensions).map fun extensions =>
    if allBlank text.toList then ""
    else String.ofList (writeDocument (readDocument extensions text.toList))

end Placard.Markdown
