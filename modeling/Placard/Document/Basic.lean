import Placard.Document.Keyword
import Placard.Url.Address

/-!
# Cards

A card is a document: a body of elements and a list of actions.

* Elements show text, images and facts, take input, or group other elements. A card can itself be an
  element, and so can a column.
* Actions submit the inputs, open an address or show a further card.
* An element or action of a kind that is not known is kept with all its members.

Every node has a frame: an optional name, and how it is set off from the node before it. A node that
is there is described in full: what a document leaves out has its default.
-/

namespace Placard.Document

open Placard.Number Placard.Data

/-- What all nodes have. -/
structure Frame where
  /-- the name of the node, which inputs submit their values under -/
  id : Option String := none
  /-- the space before the node -/
  spacing : Spacing := .default
  /-- whether a line is drawn before the node -/
  separator : Bool := false
deriving DecidableEq

/-- A block of text in Markdown. -/
structure TextBlock where
  frame : Frame := {}
  text : String := ""
  size : TextSize := .default
  weight : TextWeight := .default
  color : TextColor := .default
  isSubtle : Bool := false
  wrap : Bool := false
  /-- the number of lines shown, without limit if zero -/
  maxLines : Nat := 0
  alignment : Placement := .left

/-- A title and the value under it. -/
structure Fact where
  title : String := ""
  value : String := ""
deriving DecidableEq

/-- A list of facts. -/
structure FactSet where
  frame : Frame := {}
  facts : List Fact := []

/-- An option of a choice set: what it shows and what it submits. -/
structure Choice where
  title : String := ""
  value : String := ""
deriving DecidableEq

/-- A choice of one or of several options. -/
structure ChoiceSet where
  frame : Frame := {}
  choices : List Choice := []
  isMultiSelect : Bool := false
  style : ChoiceStyle := .compact
  /-- the values chosen at first, with commas between them -/
  value : Option String := none

/-- An input of text. -/
structure TextInput where
  frame : Frame := {}
  placeholder : Option String := none
  value : Option String := none
  isMultiline : Bool := false
  /-- the greatest length, without limit if zero -/
  maxLength : Nat := 0

/-- An input of a number. -/
structure NumberInput where
  frame : Frame := {}
  placeholder : Option String := none
  value : Option Double := none
  min : Option Double := none
  max : Option Double := none

/-- An input of a date or of a time of day. -/
structure Picker where
  frame : Frame := {}
  placeholder : Option String := none
  value : Option String := none
  min : Option String := none
  max : Option String := none

/-- A switch with a value for each of its positions. -/
structure Toggle where
  frame : Frame := {}
  title : String := ""
  value : Option String := none
  valueOn : Option String := none
  valueOff : Option String := none

/-- An element or an action of a kind that is not known. -/
structure Unknown where
  kind : String
  frame : Frame := {}
  /-- the title, which only actions have -/
  title : Option String := none
  /-- the other members, as they are in the document -/
  members : List (String × Value) := []

mutual

/-- A document, or a card within one. -/
structure Card where
  frame : Frame
  /-- the version of the schema that the card is written for -/
  version : Option String
  body : List Element
  actions : List Action
  /-- the text to show instead of a card that cannot be rendered -/
  fallbackText : Option String
  backgroundImage : Option String

/-- A vertical group of elements. -/
structure Container where
  frame : Frame
  items : List Element
  selectAction : Option Action

/-- A column of a column set. -/
structure Column where
  frame : Frame
  items : List Element
  /-- `auto`, `stretch` or a weight -/
  width : Option String
  /-- an older name for the width -/
  size : Option String
  selectAction : Option Action

/-- A row of columns. -/
structure ColumnSet where
  frame : Frame
  columns : List Column
  selectAction : Option Action

/-- An image. -/
structure Image where
  frame : Frame
  url : String
  altText : Option String
  size : ImageSize
  style : ImageStyle
  alignment : Placement
  selectAction : Option Action

/-- Images of one size. -/
structure ImageSet where
  frame : Frame
  images : List Image
  imageSize : ImageSize

/-- A part of the body of a card. -/
inductive Element where
  | card (c : Card)
  | container (c : Container)
  | column (c : Column)
  | columnSet (s : ColumnSet)
  | factSet (s : FactSet)
  | image (i : Image)
  | imageSet (s : ImageSet)
  | textBlock (t : TextBlock)
  | choiceSet (c : ChoiceSet)
  | textInput (i : TextInput)
  | numberInput (i : NumberInput)
  | dateInput (p : Picker)
  | timeInput (p : Picker)
  | toggle (t : Toggle)
  | unknown (u : Unknown)

/-- What happens when the reader of a card activates something. -/
inductive Action where
  /-- submits the inputs together with data -/
  | submit (frame : Frame) (title : Option String) (data : Value)
  | openUrl (frame : Frame) (title : Option String) (url : Url.Address)
  | showCard (frame : Frame) (title : Option String) (card : Option Card)
  | unknown (u : Unknown)

end

/-- A node of a document. -/
inductive Node where
  | element (e : Element)
  | action (a : Action)

/-! ## Kinds and frames -/

/-- The name of the kind of an element, as documents give it. -/
def Element.kind : Element → String
  | .card _ => "AdaptiveCard"
  | .container _ => "Container"
  | .column _ => "Column"
  | .columnSet _ => "ColumnSet"
  | .factSet _ => "FactSet"
  | .image _ => "Image"
  | .imageSet _ => "ImageSet"
  | .textBlock _ => "TextBlock"
  | .choiceSet _ => "Input.ChoiceSet"
  | .textInput _ => "Input.Text"
  | .numberInput _ => "Input.Number"
  | .dateInput _ => "Input.Date"
  | .timeInput _ => "Input.Time"
  | .toggle _ => "Input.Toggle"
  | .unknown u => u.kind

/-- The name of the kind of an action, as documents give it. -/
def Action.kind : Action → String
  | .submit .. => "Action.Submit"
  | .openUrl .. => "Action.OpenUrl"
  | .showCard .. => "Action.ShowCard"
  | .unknown u => u.kind

/-- The name of the kind of a node. -/
def Node.kind : Node → String
  | .element e => e.kind
  | .action a => a.kind

/-- The kinds of elements that are known. -/
def elementKinds : List String :=
  ["AdaptiveCard", "Container", "Column", "ColumnSet", "FactSet", "Image", "ImageSet", "TextBlock",
    "Input.ChoiceSet", "Input.Text", "Input.Number", "Input.Date", "Input.Time", "Input.Toggle"]

/-- The kinds of actions that are known. -/
def actionKinds : List String :=
  ["Action.Submit", "Action.OpenUrl", "Action.ShowCard"]

/-- The frame of an element. -/
def Element.frame : Element → Frame
  | .card c => c.frame
  | .container c => c.frame
  | .column c => c.frame
  | .columnSet s => s.frame
  | .factSet s => s.frame
  | .image i => i.frame
  | .imageSet s => s.frame
  | .textBlock t => t.frame
  | .choiceSet c => c.frame
  | .textInput i => i.frame
  | .numberInput i => i.frame
  | .dateInput p => p.frame
  | .timeInput p => p.frame
  | .toggle t => t.frame
  | .unknown u => u.frame

/-- The frame of an action. -/
def Action.frame : Action → Frame
  | .submit f _ _ => f
  | .openUrl f _ _ => f
  | .showCard f _ _ => f
  | .unknown u => u.frame

/-- The title of an action. -/
def Action.title : Action → Option String
  | .submit _ t _ => t
  | .openUrl _ t _ => t
  | .showCard _ t _ => t
  | .unknown u => u.title

/-! ## Height

The height of a node bounds how deep nodes are nested in it, so that a node is higher than every
node that is rendered on its behalf. Texts are rendered on behalf of facts. -/

mutual

/-- The height of a card. -/
def Card.height (c : Card) : Nat :=
  match c with
  | ⟨_, _, body, actions, _, _⟩ => max (heightOfElements body) (heightOfActions actions) + 1

/-- The height of a container. -/
def Container.height (c : Container) : Nat :=
  match c with
  | ⟨_, items, action⟩ => max (heightOfElements items) (heightOfAction? action) + 1

/-- The height of a column. -/
def Column.height (c : Column) : Nat :=
  match c with
  | ⟨_, items, _, _, action⟩ => max (heightOfElements items) (heightOfAction? action) + 1

/-- The height of a column set. -/
def ColumnSet.height (s : ColumnSet) : Nat :=
  match s with
  | ⟨_, columns, action⟩ => max (heightOfColumns columns) (heightOfAction? action) + 1

/-- The height of an image. -/
def Image.height (i : Image) : Nat :=
  match i with
  | ⟨_, _, _, _, _, _, action⟩ => heightOfAction? action + 1

/-- The height of a set of images. -/
def ImageSet.height (s : ImageSet) : Nat :=
  match s with
  | ⟨_, images, _⟩ => heightOfImages images + 1

/-- The height of an element. -/
def Element.height : Element → Nat
  | .card c => c.height
  | .container c => c.height
  | .column c => c.height
  | .columnSet s => s.height
  | .factSet _ => 2
  | .image i => i.height
  | .imageSet s => s.height
  | .textBlock _ => 1
  | .choiceSet _ => 1
  | .textInput _ => 1
  | .numberInput _ => 1
  | .dateInput _ => 1
  | .timeInput _ => 1
  | .toggle _ => 1
  | .unknown _ => 1

/-- The height of an action. -/
def Action.height : Action → Nat
  | .submit .. => 1
  | .openUrl .. => 1
  | .showCard _ _ card => heightOfCard? card + 1
  | .unknown _ => 1

/-- The greatest height among elements. -/
def heightOfElements : List Element → Nat
  | [] => 0
  | e :: es => max e.height (heightOfElements es)

/-- The greatest height among actions. -/
def heightOfActions : List Action → Nat
  | [] => 0
  | a :: as => max a.height (heightOfActions as)

/-- The greatest height among columns. -/
def heightOfColumns : List Column → Nat
  | [] => 0
  | c :: cs => max c.height (heightOfColumns cs)

/-- The greatest height among images. -/
def heightOfImages : List Image → Nat
  | [] => 0
  | i :: is => max i.height (heightOfImages is)

/-- The height of an action, if there is one. -/
def heightOfAction? : Option Action → Nat
  | none => 0
  | some a => a.height

/-- The height of a card, if there is one. -/
def heightOfCard? : Option Card → Nat
  | none => 0
  | some c => c.height

end

/-- The height of a node. -/
def Node.height : Node → Nat
  | .element e => e.height
  | .action a => a.height

end Placard.Document
