import Placard.Markdown.Definition
import Placard.Markdown.Piece
import Placard.Markdown.Table

/-!
# Blocks

Blank lines divide a text into blocks. `formOf` says what a block is, or which of its lines is
something else than text. `readBlocks` adds it to the content of an element, and goes on with what
is left of the block. Link definitions are collected on the way.

Two things depend on where a block stands. The indented block behind a list continues its last
item, and a text directly inside a tight item is no paragraph.
-/

namespace Placard.Markdown

open Placard.Text Piece

/-- Which rules hold for blocks. -/
structure BlockRules where
  /-- Whether items of the other kind end a list, and whether the first number of a list counts. -/
  separateLists : Bool
  /-- Whether there are tables. -/
  tables : Bool

/-- What the nearest enclosing construct makes of its text. -/
inductive Mode where
  | flow
  | tightItem
  | outdented
deriving DecidableEq

/-- The blocks of a text. -/
def splitBlocks : List Char → List (List Char)
  | [] => [[]]
  | '\n' :: '\n' :: rest => [] :: splitBlocks rest
  | c :: rest =>
    match splitBlocks rest with
    | [] => [[c]]
    | block :: blocks => (c :: block) :: blocks

/-- The text unless it is empty, as the next block. -/
def nextNonempty (cs : List Char) (rest : List (List Char)) : List (List Char) :=
  if cs.isEmpty then rest else cs :: rest

/-! ## Code -/

/-- The characters of code in written form. -/
def ofCode (cs : List Char) : List Piece :=
  cs.map fun c =>
    if c = '&' then entity "&amp;".toList
    else if c = '<' then entity "&lt;".toList
    else if c = '>' then entity "&gt;".toList
    else literal c

/-- The content with more text in the code block that ends it. -/
def extendCode? (more : List Piece) (content : List Piece) : Option (List Piece) :=
  match lastElement? content with
  | some (before, element .codeBlock a [element .code b code], after) =>
    some (before ++ element .codeBlock a [element .code b (code ++ more)] :: after)
  | _ => none

/-- The indented lines at the start of a block without their indentation, and the other lines. -/
def outdentLines : List (List Char) → List (List Char) × List (List Char)
  | [] => ([], [])
  | line :: rest =>
    if isIndented line then
      let (code, others) := outdentLines rest
      (line.drop indentWidth :: code, others)
    else if allBlank line then
      let (code, others) := outdentLines rest
      ([] :: code, others)
    else ([], line :: rest)

/-- The content with a code block at its end, and what is left of the block. -/
def addCode (block : List Char) (content : List Piece) : List Piece × List Char :=
  let (code, others) := outdentLines (lines block)
  let text := ofCode (dropTrailing isBlank (unlines code)) ++ [literal '\n']
  match extendCode? (literal '\n' :: text) content with
  | some content => (content, unlines others)
  | none => (content ++ [plain .codeBlock [plain .code text]], unlines others)

/-! ## Lists -/

/-- The kind of a list. -/
def listKind (numbered : Bool) : Kind :=
  if numbered then .numberedList else .bulletList

/-- The content of an item that may belong to a list. -/
def itemOf? (rules : BlockRules) (numbered : Bool) (line : List Char) : Option (List Char) :=
  let bullet := bulletItem? line
  let number := (numberedItem? line).map (·.2)
  if rules.separateLists then (if numbered then number else bullet) else number.or bullet

/-- The items of a block, the last one first: each with its further lines, and indented items in
items of their own. -/
def itemsOf (rules : BlockRules) (numbered : Bool) (block : List Char) : List (List Char) :=
  ((lines block).foldl add []).reverse
where
  /-- The items with a line more. -/
  add (items : List (List Char)) (line : List Char) : List (List Char) :=
    match itemOf? rules numbered line, items with
    | some item, _ => item :: items
    | none, [] => [line]
    | none, item :: before =>
      if isIndentedItem line && !isIndented item then line :: item :: before
      else (item ++ '\n' :: line) :: before

/-- Whether a new list goes on with a list that stands before it. -/
def continues (rules : BlockRules) (numbered : Bool) (kind : Kind) : Bool :=
  if rules.separateLists then kind == listKind numbered else kind.isList

/-- The content of an item with its text made a paragraph. -/
def wrapText (content : List Piece) : List Piece :=
  match leadingText content with
  | [] => content
  | text => plain .paragraph text :: afterText content

/-- The content of an item with the text behind its last element made a paragraph. -/
def wrapTrailing (content : List Piece) : List Piece :=
  match beforeText content, trailingText content with
  | [], _ => content
  | _, [] => content
  | before, text => before ++ [plain .paragraph (text.dropWhile isBlankPiece)]

/-- The content with its last element changed, if that is of some kind. -/
def changeLast (p : Kind → Bool) (f : List Piece → List Piece) (content : List Piece) :
    List Piece :=
  match lastElement? content with
  | some (before, element kind a inner, after) =>
    if p kind then before ++ element kind a (f inner) :: after else content
  | _ => content

/-- How many levels of indentation the place has that an indented block continues, and how many
elements it lies below the content. -/
def placeOfIndent (wanted : Nat) : Nat → Nat → List Piece → Nat × Nat
  | 0, level, _ => (level, 0)
  | fuel + 1, level, content =>
    if wanted ≤ level then (level, 0)
    else
      match lastElement? content with
      | some (_, element kind _ inner, _) =>
        if kind.isList then
          let (l, depth) := placeOfIndent wanted fuel (level + 1) inner
          (l, depth + 1)
        else if kind = .item then
          let (l, depth) := placeOfIndent wanted fuel level inner
          (l, depth + 1)
        else (level, 0)
      | _ => (level, 0)

/-- The lines without so many levels of indentation, where they have them. -/
def outdentBy (level : Nat) (block : List Char) : List Char :=
  let indentation := List.replicate (indentWidth * level) ' '
  unlines ((lines block).map fun line => (afterStart? indentation line).getD line)

/-! ## Reading -/

/-- The content read so far and the definitions. -/
abbrev Read := List Piece × Definitions

/-- The content with an element changed that lies so many last elements below it. -/
def changeBelow (f : Option Kind → List Piece → Definitions → Read) :
    Nat → Option Kind → List Piece → Definitions → Read
  | 0, kind, content, ds => f kind content ds
  | depth + 1, kind, content, ds =>
    match lastElement? content with
    | some (before, element k a inner, after) =>
      let (inner, ds) := changeBelow f depth (some k) inner ds
      (before ++ element k a inner :: after, ds)
    | _ => f kind content ds

/-- What a block is, or which of its lines is something else than text. -/
inductive Form where
  | blank (breaks more : List Char)
  | continuation
  | code
  | table (t : Piece)
  | heading (before : List Char) (level : Nat) (text after : List Char)
  | rule (before after : List Char)
  | list (numbered : Bool) (start : List (String × List Char))
  | quote (before text : List Char)
  | definition (before : List Char) (definition : Definition) (after : List Char)
  | text

/-- The kind of the last element of some content. -/
def lastKind? (content : List Piece) : Option Kind :=
  match lastElement? content with
  | some (_, element kind _ _, _) => some kind
  | _ => none

/-- The heading whose second line underlines the first one. -/
def underlined? : List (List Char) → Option Form
  | text :: line :: after =>
    if isUnderline line then
      some (.heading [] (if startsWith ['='] line then 1 else 2) (trim text) (unlines after))
    else none
  | _ => none

/-- The heading that a line of a block is. -/
def headed? (block : List (List Char)) : Option Form :=
  (splitAtLine heading? block).map fun (before, (level, text), after) =>
    .heading (unlines before) level text (unlines after)

/-- The rule that a line of a block is. -/
def ruled? (block : List (List Char)) : Option Form :=
  (splitAtLine (fun line => if isRule line then some () else none) block).map
    fun (before, _, after) =>
      .rule (dropTrailing (· == '\n') (unlines before)) (dropLeading (· == '\n') (unlines after))

/-- The list whose first item begins a block. -/
def listed? (rules : BlockRules) (block : List (List Char)) : Option Form :=
  let first := block.headD []
  match numberedItem? first, bulletItem? first with
  | some (number, _), _ =>
    some (.list true
      (if rules.separateLists && number != ['1'] then [("start", number)] else []))
  | none, some _ => some (.list false [])
  | none, none => none

/-- A line inside a quote without its mark, if it has one. -/
def unquoted (line : List Char) : List Char :=
  if trim line = ['>'] then [] else (quoted? line).getD line

/-- The quote that begins with a line of a block. -/
def quotedFrom? (block : List (List Char)) : Option Form :=
  (splitAtLine (fun line => (quoted? line).map fun _ => unquoted line) block).map
    fun (before, line, after) =>
      let text := unlines (line :: after.map unquoted)
      .quote (unlines before) (if before.isEmpty then text else '\n' :: text)

/-- What a block is at its place. -/
def formOf (rules : BlockRules) (mode : Mode) (parent : Option Kind) (content : List Piece)
    (block : List Char) : Form :=
  let all := lines block
  match block with
  | [] => .blank ['\n', '\n'] []
  | '\n' :: more => .blank ['\n'] more
  | _ =>
    if isIndented block then
      if mode != .outdented && (parent = some .item || (lastKind? content).any Kind.isList) then
        .continuation
      else .code
    else
      let table : Option Form := if rules.tables then (table? all).map .table else none
      let definition : Option Form :=
        (firstDefinition? block).map fun (before, d, after) => .definition before d after
      (table.or ((headed? all).or ((underlined? all).or ((ruled? all).or
        ((listed? rules all).or ((quotedFrom? all).or definition)))))).getD .text

/-- The text at the end of some content: a paragraph, unless it stands in a tight item. -/
def addText (mode : Mode) (block : List Char) (content : List Piece) : List Piece :=
  let text := dropLeading isBlank block
  if text.isEmpty then content
  else if mode = .tightItem then
    content ++ ofChars (
      if content.isEmpty then text
      else if content.any isElement then '\n' :: block
      else '\n' :: text)
  else content ++ [plain .paragraph (ofChars text)]

/-- Reads blocks into the content of an element, or of the document. -/
def readBlocks (rules : BlockRules) :
    Nat → Mode → Option Kind → List (List Char) → List Piece → Definitions → Read
  | 0, _, _, _, content, ds => (content, ds)
  | _, _, _, [], content, ds => (content, ds)
  | fuel + 1, mode, parent, block :: rest, content, ds =>
    let read := readBlocks rules fuel
    let goOn := fun (rest : List (List Char)) (r : Read) => read mode parent rest r.1 r.2
    let append := fun (mode : Mode) (kind : Kind) (blocks : List (List Char)) (r : Read) =>
      let (inner, ds) := read mode (some kind) blocks [] r.2
      ((r.1 ++ [plain kind inner], ds) : Read)
    let extend := fun (mode : Mode) (blocks : List (List Char)) (r : Read) =>
      changeBelow (fun kind inner ds => read mode kind blocks inner ds) 1 none r.1 r.2
    let addItems := fun (items : List (List Char)) (r : Read) =>
      items.foldl (fun r item =>
        if isIndented item then extend .tightItem [item] r
        else append .tightItem .item [item] r) r
    match formOf rules mode parent content block with
    | .blank breaks more =>
      goOn (nextNonempty more rest) ((extendCode? (ofLiteral breaks) content).getD content, ds)
    | .continuation =>
      let wanted := leadingSpaces block / indentWidth
      let start := if mode = .tightItem then 1 else 0
      let (level, depth) := placeOfIndent wanted (block.length + 1) start content
      let block := outdentBy level block
      if parent = some .item then
        let depth := if (lastKind? content).any Kind.isList then 1 else 0
        goOn rest (changeBelow (fun kind inner ds => read .outdented kind [block] inner ds) depth
          parent content ds)
      else
        goOn rest (changeBelow (fun kind inner ds =>
          if kind = some .item then read .outdented kind [block] inner ds
          else if lastKind? inner = some .item then
            extend .outdented (splitBlocks block) (changeLast (fun _ => true) wrapText inner, ds)
          else append .outdented .item [block] (inner, ds)) depth parent content ds)
    | .code =>
      let (content, others) := addCode block content
      goOn (nextNonempty others rest) (content, ds)
    | .table t => goOn rest (content ++ [t], ds)
    | .heading before level text after =>
      let (content, ds) := read mode parent (nextNonempty before []) content ds
      goOn (nextNonempty after rest) (content ++ [plain (.heading level) (ofChars text)], ds)
    | .rule before after =>
      let (content, ds) := read mode parent (nextNonempty before []) content ds
      goOn (nextNonempty after rest) (content ++ [plain .rule []], ds)
    | .list numbered start =>
      let items := itemsOf rules numbered block
      let fresh :=
        if parent.any Kind.isList then goOn rest (addItems items (content, ds))
        else
          let (inner, ds) := addItems items ([], ds)
          goOn rest (content ++ [element (listKind numbered) start inner], ds)
      match lastElement? content with
      | some (before, element kind a inner, after) =>
        if continues rules numbered kind then
          let inner := changeLast (fun _ => true) (fun item => wrapTrailing (wrapText item)) inner
          let (inner, ds) := addItems (items.drop 1) (append .flow .item (items.take 1) (inner, ds))
          goOn rest (before ++ element kind a inner :: after, ds)
        else fresh
      | _ => fresh
    | .quote before text =>
      let (content, ds) := read mode parent [before] content ds
      let blocks := splitBlocks text
      if lastKind? content = some .quote then
        goOn rest
          (changeBelow (fun kind inner ds => read .flow kind blocks inner ds) 1 parent content ds)
      else goOn rest (append .flow .quote blocks (content, ds))
    | .definition before d after =>
      let after := if allBlank after then [] else dropLeading (· == '\n') after
      let before := if allBlank before then [] else dropTrailing (· == '\n') before
      goOn (nextNonempty before (nextNonempty after rest)) (content, d :: ds)
    | .text => goOn rest (addText mode block content, ds)

/-- The content and the definitions of a text. -/
def readText (rules : BlockRules) (cs : List Char) : Read :=
  readBlocks rules (8 * cs.length + 32) .flow none (splitBlocks cs) [] []

end Placard.Markdown
