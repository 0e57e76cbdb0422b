import Placard.Document.Basic

/-!
# Cards as data

`Card.toData` and its companions describe a node in full as plain data: all fields under their names
in mixed case, defaults included, and a node of unknown kind with all the members it came with.
-/

namespace Placard.Document

open Placard.Data

/-- A keyword as data. -/
def keywordData {α : Type} [Keyword α] (k : α) : Value :=
  .text (Keyword.text k)

/-- A number that may be missing as data. -/
def numberData? (x : Option Number.Double) : Value :=
  x.elim .null .float

/-- The members that every node of a kind has. -/
def Frame.members (f : Frame) (kind : String) : List (String × Value) :=
  [("type", .text kind), ("id", .ofText? f.id), ("spacing", keywordData f.spacing),
    ("separator", .bool f.separator)]

/-- A fact as data. -/
def Fact.toData (f : Fact) : Value :=
  .ofMembers [("title", .text f.title), ("value", .text f.value)]

/-- An option of a choice set as data. -/
def Choice.toData (c : Choice) : Value :=
  .ofMembers [("title", .text c.title), ("value", .text c.value)]

/-- A block of text as data. -/
def TextBlock.toData (t : TextBlock) : Value :=
  .ofMembers (t.frame.members "TextBlock" ++
    [("text", .text t.text), ("size", keywordData t.size), ("weight", keywordData t.weight),
      ("color", keywordData t.color), ("isSubtle", .bool t.isSubtle), ("wrap", .bool t.wrap),
      ("maxLines", .int t.maxLines), ("horizontalAlignment", keywordData t.alignment)])

/-- A list of facts as data. -/
def FactSet.toData (s : FactSet) : Value :=
  .ofMembers (s.frame.members "FactSet" ++ [("facts", .list (s.facts.map Fact.toData))])

/-- A choice set as data. -/
def ChoiceSet.toData (c : ChoiceSet) : Value :=
  .ofMembers (c.frame.members "Input.ChoiceSet" ++
    [("choices", .list (c.choices.map Choice.toData)), ("isMultiSelect", .bool c.isMultiSelect),
      ("style", keywordData c.style), ("value", .ofText? c.value)])

/-- An input of text as data. -/
def TextInput.toData (i : TextInput) : Value :=
  .ofMembers (i.frame.members "Input.Text" ++
    [("placeholder", .ofText? i.placeholder), ("value", .ofText? i.value),
      ("isMultiline", .bool i.isMultiline), ("maxLength", .int i.maxLength)])

/-- An input of a number as data. -/
def NumberInput.toData (i : NumberInput) : Value :=
  .ofMembers (i.frame.members "Input.Number" ++
    [("placeholder", .ofText? i.placeholder), ("value", numberData? i.value),
      ("min", numberData? i.min), ("max", numberData? i.max)])

/-- An input of a date or a time as data. -/
def Picker.toData (kind : String) (p : Picker) : Value :=
  .ofMembers (p.frame.members kind ++
    [("placeholder", .ofText? p.placeholder), ("value", .ofText? p.value), ("min", .ofText? p.min),
      ("max", .ofText? p.max)])

/-- A switch as data. -/
def Toggle.toData (t : Toggle) : Value :=
  .ofMembers (t.frame.members "Input.Toggle" ++
    [("title", .text t.title), ("value", .ofText? t.value), ("valueOn", .ofText? t.valueOn),
      ("valueOff", .ofText? t.valueOff)])

/-- A node of unknown kind as data, with further members of its own. -/
def Unknown.toData (u : Unknown) (own : List (String × Value)) : Value :=
  .ofMembers (u.frame.members u.kind ++ own ++ u.members)

mutual

/-- A card as data. -/
def Card.toData (c : Card) : Value :=
  match c with
  | ⟨frame, version, body, actions, fallbackText, backgroundImage⟩ =>
    .ofMembers (frame.members "AdaptiveCard" ++
      [("version", .ofText? version), ("body", .list (dataOfElements body)),
        ("actions", .list (dataOfActions actions)), ("fallbackText", .ofText? fallbackText),
        ("backgroundImage", .ofText? backgroundImage)])

/-- A container as data. -/
def Container.toData (c : Container) : Value :=
  match c with
  | ⟨frame, items, selectAction⟩ =>
    .ofMembers (frame.members "Container" ++
      [("items", .list (dataOfElements items)), ("selectAction", dataOfAction? selectAction)])

/-- A column as data. -/
def Column.toData (c : Column) : Value :=
  match c with
  | ⟨frame, items, width, size, selectAction⟩ =>
    .ofMembers (frame.members "Column" ++
      [("items", .list (dataOfElements items)), ("width", .ofText? width), ("size", .ofText? size),
        ("selectAction", dataOfAction? selectAction)])

/-- A row of columns as data. -/
def ColumnSet.toData (s : ColumnSet) : Value :=
  match s with
  | ⟨frame, columns, selectAction⟩ =>
    .ofMembers (frame.members "ColumnSet" ++
      [("columns", .list (dataOfColumns columns)), ("selectAction", dataOfAction? selectAction)])

/-- An image as data. -/
def Image.toData (i : Image) : Value :=
  match i with
  | ⟨frame, url, altText, size, style, alignment, selectAction⟩ =>
    .ofMembers (frame.members "Image" ++
      [("url", .text url), ("altText", .ofText? altText), ("size", keywordData size),
        ("style", keywordData style), ("horizontalAlignment", keywordData alignment),
        ("selectAction", dataOfAction? selectAction)])

/-- A set of images as data. -/
def ImageSet.toData (s : ImageSet) : Value :=
  match s with
  | ⟨frame, images, imageSize⟩ =>
    .ofMembers (frame.members "ImageSet" ++
      [("images", .list (dataOfImages images)), ("imageSize", keywordData imageSize)])

/-- An element as data. -/
def Element.toData : Element → Value
  | .card c => c.toData
  | .container c => c.toData
  | .column c => c.toData
  | .columnSet s => s.toData
  | .factSet s => s.toData
  | .image i => i.toData
  | .imageSet s => s.toData
  | .textBlock t => t.toData
  | .choiceSet c => c.toData
  | .textInput i => i.toData
  | .numberInput i => i.toData
  | .dateInput p => p.toData "Input.Date"
  | .timeInput p => p.toData "Input.Time"
  | .toggle t => t.toData
  | .unknown u => u.toData []

/-- An action as data. -/
def Action.toData : Action → Value
  | .submit frame title data =>
    .ofMembers (frame.members "Action.Submit" ++ [("title", .ofText? title), ("data", data)])
  | .openUrl frame title url =>
    .ofMembers (frame.members "Action.OpenUrl" ++
      [("title", .ofText? title), ("url", .text url.text)])
  | .showCard frame title card =>
    .ofMembers (frame.members "Action.ShowCard" ++
      [("title", .ofText? title), ("card", dataOfCard? card)])
  | .unknown u => u.toData [("title", .ofText? u.title)]

/-- Elements as data. -/
def dataOfElements : List Element → List Value
  | [] => []
  | e :: es => e.toData :: dataOfElements es

/-- Actions as data. -/
def dataOfActions : List Action → List Value
  | [] => []
  | a :: as => a.toData :: dataOfActions as

/-- Columns as data. -/
def dataOfColumns : List Column → List Value
  | [] => []
  | c :: cs => c.toData :: dataOfColumns cs

/-- Images as data. -/
def dataOfImages : List Image → List Value
  | [] => []
  | i :: is => i.toData :: dataOfImages is

/-- An action that may be missing as data. -/
def dataOfAction? : Option Action → Value
  | none => .null
  | some a => a.toData

/-- A card that may be missing as data. -/
def dataOfCard? : Option Card → Value
  | none => .null
  | some c => c.toData

end

end Placard.Document
