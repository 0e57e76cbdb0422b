import Placard.Tag.Property

/-!
# Tags

The output of rendering is a tree of tags. A tag has a name, class names, inline styles, attributes,
optional literal text and children. Each edit gives a new tag:

* a class name is added once, and never an empty one;
* a style or an attribute that is set again keeps its place and gets the new value;
* children are added at the end.
-/

namespace Placard

/-- An element of the rendered tree. Its text comes before its children. -/
structure Tag where
  name : String
  text : Option String
  classes : List String
  styles : List (Property × String)
  attributes : List (String × String)
  children : List Tag

/-- The entries with one written: in place if its key is there, else at the end. -/
def writeAt {κ α : Type} [DecidableEq κ] (key : κ) (value : α) : List (κ × α) → List (κ × α)
  | [] => [(key, value)]
  | (k, v) :: rest => if k = key then (k, value) :: rest else (k, v) :: writeAt key value rest

/-- The value under a key. -/
def valueAt? {κ α : Type} [DecidableEq κ] (key : κ) : List (κ × α) → Option α
  | [] => none
  | (k, v) :: rest => if k = key then some v else valueAt? key rest

namespace Tag

/-- A tag with nothing but a name. -/
def named (name : String) : Tag :=
  { name, text := none, classes := [], styles := [], attributes := [], children := [] }

instance : Inhabited Tag := ⟨named ""⟩

/-- The tag with a class name more. -/
def addClass (name : String) (t : Tag) : Tag :=
  if name.isEmpty || t.classes.contains name then t
  else { t with classes := t.classes ++ [name] }

/-- The tag with a style set. -/
def setStyle (property : Property) (value : String) (t : Tag) : Tag :=
  { t with styles := writeAt property value t.styles }

/-- The tag with a style set by its name in CSS, if that is a property tags may set. -/
def setStyleNamed? (name value : String) (t : Tag) : Option Tag :=
  (Property.ofName? name).map fun p => t.setStyle p value

/-- The tag with an attribute set. -/
def setAttr (name value : String) (t : Tag) : Tag :=
  { t with attributes := writeAt name value t.attributes }

/-- The value of an attribute. -/
def attr? (name : String) (t : Tag) : Option String :=
  valueAt? name t.attributes

/-- The tag with a literal text, or with none. -/
def setText (text : Option String) (t : Tag) : Tag :=
  { t with text }

/-- The tag with a child more. -/
def append (t child : Tag) : Tag :=
  { t with children := t.children ++ [child] }

/-- The tag with children more. -/
def appendAll (children : List Tag) (t : Tag) : Tag :=
  { t with children := t.children ++ children }

/-! ## Views -/

mutual

/-- The tags below a tag, in document order. -/
def descendants (t : Tag) : List Tag :=
  match t with
  | ⟨_, _, _, _, _, children⟩ => descendantsOf children

/-- The tags of a list and those below them, in document order. -/
def descendantsOf : List Tag → List Tag
  | [] => []
  | t :: ts => t :: descendants t ++ descendantsOf ts

end

mutual

/-- The literal texts of a tag and all tags below it, in document order. -/
def textContent (t : Tag) : String :=
  match t with
  | ⟨_, text, _, _, _, children⟩ => text.getD "" ++ textContentOf children

/-- The literal texts of a list of tags and all tags below them. -/
def textContentOf : List Tag → String
  | [] => ""
  | t :: ts => textContent t ++ textContentOf ts

end

/-- The descendants with a given name, if one is given, and a given class, if one is given. -/
def findAll (name className : Option String) (t : Tag) : List Tag :=
  t.descendants.filter fun d =>
    name.all (d.name == ·) && className.all d.classes.contains

/-- The tag at a path of child positions. -/
def at? : List Nat → Tag → Option Tag
  | [], t => some t
  | i :: path, t => (t.children[i]?).bind (at? path)

/-- The tag with the one at a path of child positions edited; nothing changes off the path. -/
def editAt (f : Tag → Tag) : List Nat → Tag → Tag
  | [], t => f t
  | i :: path, t => { t with children := t.children.modify i (editAt f path) }

mutual

/-- The tag with an edit applied to all tags below it that satisfy a condition. -/
def editBelow (p : Tag → Bool) (f : Tag → Tag) (t : Tag) : Tag :=
  match t with
  | ⟨name, text, classes, styles, attributes, children⟩ =>
    ⟨name, text, classes, styles, attributes, editEach p f children⟩

/-- The tags with an edit applied to each of them, and to all below them, that satisfies a
condition. -/
def editEach (p : Tag → Bool) (f : Tag → Tag) : List Tag → List Tag
  | [] => []
  | t :: ts =>
    let t' := editBelow p f t
    (if p t then f t' else t') :: editEach p f ts

end

end Tag

end Placard
