import Placard.Tag.Basic

/-!
# Writing tags as HTML

The class names and the styles of a tag are written as attributes before its other ones. Every name
and every value is escaped, so that no text can open or close a tag. A void tag has neither text
nor children in HTML and no end tag.
-/

namespace Placard

namespace Html

/-- A character of a text or of an attribute value. -/
def escapeChar (c : Char) : List Char :=
  if c = '&' then ['&', 'a', 'm', 'p', ';']
  else if c = '<' then ['&', 'l', 't', ';']
  else if c = '>' then ['&', 'g', 't', ';']
  else if c = '"' then ['&', '#', '3', '4', ';']
  else if c = '\x27' then ['&', '#', '3', '9', ';']
  else [c]

/-- A text or an attribute value. -/
def escape (s : String) : List Char :=
  s.toList.flatMap escapeChar

/-- The tags that have no content. -/
def voidNames : List String :=
  ["br", "hr", "img", "input", "meta"]

/-- The names with a separator between each two. -/
def separated (separator : String) : List String → String
  | [] => ""
  | [s] => s
  | s :: rest => s ++ separator ++ separated separator rest

/-- The inline styles as declarations. -/
def declarations (styles : List (Property × String)) : String :=
  separated "; " (styles.map fun s => s.1.name ++ ": " ++ s.2)

/-- The attributes of a tag in the order they are written: classes, styles, then the others. -/
def writtenAttributes (t : Tag) : List (String × String) :=
  (if t.classes.isEmpty then [] else [("class", separated " " t.classes)]) ++
    (if t.styles.isEmpty then [] else [("style", declarations t.styles)]) ++ t.attributes

/-- One attribute with the blank before it. -/
def writeAttribute (a : String × String) : List Char :=
  ' ' :: escape a.1 ++ '=' :: '"' :: escape a.2 ++ ['"']

mutual

/-- A tag with everything below it. -/
def write (t : Tag) : List Char :=
  match t with
  | ⟨name, text, classes, styles, attributes, children⟩ =>
    let start := '<' :: escape name ++
      (writtenAttributes ⟨name, text, classes, styles, attributes, []⟩).flatMap writeAttribute ++
      ['>']
    if voidNames.contains name then start
    else
      start ++ (text.elim [] escape) ++ writeAll children ++ '<' :: '/' :: escape name ++ ['>']

/-- A list of tags, one after the other. -/
def writeAll : List Tag → List Char
  | [] => []
  | t :: ts => write t ++ writeAll ts

end

/-- A tag with everything below it, as a string. -/
def text (t : Tag) : String :=
  String.ofList (write t)

/-- A complete document with a title around a body that is already written. -/
def page (title body : String) : String :=
  "<!DOCTYPE html>\n<html lang=\"en\">\n<head>\n<meta charset=\"UTF-8\">\n" ++
  "<meta name=\"viewport\" content=\"width=device-width, initial-scale=1.0\">\n" ++
  "<title>" ++ String.ofList (escape title) ++ "</title>\n</head>\n<body>\n" ++ body ++
  "\n</body>\n</html>"

end Html

end Placard
