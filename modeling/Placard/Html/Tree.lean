import Placard.Html.Token

/-!
# The tree of markup

Tokens become a tree of elements. An end tag closes the nearest open element of its name together
with all elements in it, and nothing if there is none. Elements that cannot have content are closed
at once. Nothing else is ever closed or moved.
-/

namespace Placard.Html

open Placard.Text

/-- A node of the tree. Attributes keep the order of their first occurrence. -/
inductive Node where
  | text (cs : List Char)
  | comment
  | element (name : List Char) (attributes : List (List Char × List Char)) (children : List Node)
deriving Inhabited

/-- The elements that cannot have content. -/
def emptyNames : List String :=
  ["area", "base", "br", "col", "embed", "hr", "img", "input", "keygen", "link", "menuitem",
    "meta", "param", "source", "track", "wbr", "basefont", "bgsound", "command", "frame", "image",
    "isindex", "nextid", "spacer"]

/-- The attributes that hold a list of words, with the element that they belong to, if only one. -/
def wordAttributes : List (String × Option String) :=
  [("class", none), ("accesskey", none), ("dropzone", none), ("rel", some "a"), ("rev", some "a"),
    ("rel", some "link"), ("rev", some "link"), ("headers", some "td"), ("headers", some "th"),
    ("accept-charset", some "form"), ("archive", some "object"), ("rel", some "area"),
    ("sizes", some "icon"), ("sandbox", some "iframe"), ("for", some "output")]

/-- The value of an attribute with single spaces between its words, if it holds a list of words. -/
def normalValue (element name value : List Char) : List Char :=
  let holdsWords := wordAttributes.any fun w =>
    w.1.toList == name && w.2.all fun e => e.toList == element
  if holdsWords then joinWith [' '] (wordsBy isBlank value) else value

/-- The attributes without repetition: the place of the first, the value of the last. -/
def distinctAttributes (attributes : List (List Char × List Char)) :
    List (List Char × List Char) :=
  attributes.foldl add []
where
  /-- The attributes with one more. -/
  add (as : List (List Char × List Char)) (a : List Char × List Char) :
      List (List Char × List Char) :=
    if as.any fun b => b.1 == a.1 then as.map fun b => if b.1 == a.1 then (b.1, a.2) else b
    else as ++ [a]

/-- An open element; its children come last first. -/
structure OpenElement where
  name : List Char
  attributes : List (List Char × List Char)
  children : List Node

/-- A tree that is being built: the nodes outside all open elements, last first, those elements,
innermost first, the text that is being read, and the elements without content whose end tag may
still come. -/
structure Growth where
  base : List Node
  opened : List OpenElement
  text : Option (List Char)
  awaited : List (List Char)

namespace Growth

/-- Nothing built yet. -/
def empty : Growth :=
  ⟨[], [], none, []⟩

/-- The tree with a node more. -/
def add (node : Node) (g : Growth) : Growth :=
  match g.opened with
  | [] => { g with base := node :: g.base }
  | e :: es => { g with opened := { e with children := node :: e.children } :: es }

/-- A text as it stands in the tree: outside preformatted elements a blank one is a single line end
or space. -/
def storedText (cs : List Char) (g : Growth) : List Char :=
  let preformatted := g.opened.any fun e => e.name == "pre".toList || e.name == "textarea".toList
  let isSpace := fun c => c == ' ' || c == '\n' || c == '\t' || c == '\x0c' || c == '\r'
  if !preformatted && cs.all isSpace then (if cs.contains '\n' then ['\n'] else [' ']) else cs

/-- The tree with the text added that was being read. -/
def endText (g : Growth) : Growth :=
  match g.text with
  | none => g
  | some cs => { g with text := none }.add (.text (g.storedText cs))

/-- The tree with the innermost element closed. -/
def closeOne (g : Growth) : Growth :=
  match g.opened with
  | [] => g
  | e :: es => { g with opened := es }.add (.element e.name e.attributes e.children.reverse)

/-- The tree with so many elements closed. -/
def closeMany : Nat → Growth → Growth
  | 0, g => g
  | n + 1, g => closeMany n g.closeOne

/-- The tree with the nearest open element of a name closed, if there is one. -/
def close (name : List Char) (g : Growth) : Growth :=
  match g.opened.findIdx? fun e => e.name == name with
  | none => g
  | some i => g.closeMany (i + 1)

/-- The tree behind an end tag. -/
def finish (name : List Char) (g : Growth) : Growth :=
  if g.awaited.contains name then { g with awaited := g.awaited.erase name }
  else g.endText.close name

/-- The tree behind a token. -/
def read (g : Growth) : Token → Growth
  | .text cs => { g with text := some (g.text.getD [] ++ cs) }
  | .comment => g.endText.add .comment
  | .section cs => { g.endText with text := some cs }.endText
  | .finish name => g.finish name
  | .start name attributes closed =>
    let attributes := (distinctAttributes attributes).map fun a => (a.1, normalValue name a.1 a.2)
    let g := g.endText
    let g := { g with opened := ⟨name, attributes, []⟩ :: g.opened }
    if closed then g.finish name
    else if emptyNames.any fun n => n.toList == name then
      let g := g.close name
      { g with awaited := g.awaited ++ [name] }
    else g

/-- The finished tree. -/
def done (g : Growth) : List Node :=
  let g := g.endText
  (g.closeMany g.opened.length).base.reverse

end Growth

/-- The tree of tokens. -/
def Node.ofTokens (ts : List Token) : List Node :=
  (ts.foldl Growth.read Growth.empty).done

/-- The tree of markup. -/
def parse (markup : String) : Except Refusal (List Node) :=
  (tokens markup.toList).map Node.ofTokens

end Placard.Html
