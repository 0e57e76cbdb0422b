import Placard.Html.Tree
import Placard.Markdown.Document
import Placard.Tag.Basic
import Placard.Url.Safe

/-!
# Text as tags

The text of a card is Markdown. It becomes a list of tags: one for each element, and a span for each
stretch of text. Comments are left out, and so are blank stretches where they only lay out the
markup. Links and sources that are not safe are dropped, and inline styles are refused.
-/

namespace Placard.Markdown

open Placard.Text Placard.Html

/-- Why a text has no tags. -/
inductive TextFault where
  | unknownExtension (u : UnknownExtension)
  | refused (r : Refusal)
  /-- An element carries an inline style. -/
  | inlineStyle
deriving DecidableEq

/-- The wording. -/
def TextFault.message : TextFault → String
  | .unknownExtension u => u.message
  | .refused r => r.message
  | .inlineStyle => "Markdown output must not carry inline styles"

/-- The elements that begin a line of their own. -/
def blockNames : List String :=
  ["p", "ul", "ol", "li", "blockquote", "pre", "hr", "div", "dl", "dt", "dd", "table", "thead",
    "tbody", "tr", "th", "td", "h1", "h2", "h3", "h4", "h5", "h6"]

/-- Whether text next to this neighbour stands inside a line. -/
def isInlineNeighbour : Option Node → Bool
  | none => false
  | some (.element name _ _) => !blockNames.contains (String.ofList name)
  | some _ => true

/-- A span with a text. -/
def span (text : String) : Tag :=
  (Tag.named "span").setText (some text)

/-- The tag of a stretch of text between two neighbours. -/
def ofText (top : Bool) (before after : Option Node) (cs : List Char) : Option Tag :=
  if allBlank cs && (top || cs.contains '\n') then
    if !top && isInlineNeighbour before && isInlineNeighbour after then some (span " ") else none
  else some (span (String.ofList cs))

/-- The tag with the classes that a text lists. -/
def addClasses (value : List Char) (t : Tag) : Tag :=
  (wordsBy isBlank value).foldl (fun t word => t.addClass (String.ofList word)) t

/-- The tag with the attributes of an element; an inline style is refused. -/
def addAttributes : List (List Char × List Char) → Tag → Except TextFault Tag
  | [], t => .ok t
  | (name, value) :: rest, t =>
    let name := String.ofList name
    if name = "style" then .error .inlineStyle
    else if name = "class" then addAttributes rest (addClasses value t)
    else if (name = "href" || name = "src") && !Url.isSafe value then addAttributes rest t
    else addAttributes rest (t.setAttr name (String.ofList value))

mutual

/-- The tag of a node between two neighbours, if it has one. -/
def ofNode (top : Bool) (before after : Option Node) : Node → Except TextFault (Option Tag)
  | .comment => .ok none
  | .text cs => .ok (ofText top before after cs)
  | .element name attributes children =>
    match ofNodes false none children with
    | .error e => .error e
    | .ok tags =>
      (addAttributes attributes ((Tag.named (String.ofList name)).appendAll tags)).map some

/-- The tags of nodes that stand next to each other behind a neighbour. -/
def ofNodes (top : Bool) (before : Option Node) : List Node → Except TextFault (List Tag)
  | [] => .ok []
  | node :: rest =>
    match ofNode top before rest.head? node with
    | .error e => .error e
    | .ok tag =>
      match ofNodes top (some node) rest with
      | .error e => .error e
      | .ok tags => .ok (tag.toList ++ tags)

end

/-- The tags of a fragment of markup. -/
def ofMarkup (markup : String) : Except TextFault (List Tag) :=
  match Html.parse markup with
  | .error r => .error (.refused r)
  | .ok nodes => ofNodes true none nodes

/-- The tags of a text under named extensions. An empty text has none. -/
def tagsOf (extensions : List String) (text : String) : Except TextFault (List Tag) :=
  if text.isEmpty then .ok []
  else
    match toXhtml extensions text with
    | .error u => .error (.unknownExtension u)
    | .ok xhtml => ofMarkup xhtml

end Placard.Markdown
