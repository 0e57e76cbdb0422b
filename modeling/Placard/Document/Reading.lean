import Placard.Document.Basic

/-!
# Reading cards

A card is read from plain data and checked on the way; see `Record.Checked` for how complaints are
collected. The kind of an element or action is what its member `type` says:

* a known kind is read as a node of that kind;
* any other text makes a node of unknown kind, which keeps its members;
* a value that cannot be looked up stops the check of the whole card.

The path to a part of an element or action has one step for its kind.
-/

namespace Placard.Document

open Placard.Text Placard.Data Placard.Record

/-! ## Nodes without nodes in them -/

/-- The frame of a node of a kind. -/
def readFrame (kind : String) (entries : Entries) : Checked Frame :=
  (fun _ id spacing separator => { id, spacing, separator }) <$>
    field entries "type" (exactly kind) () <*> text? entries "id" <*>
    field entries "spacing" Keyword.read .default <*> field entries "separator" switch false

/-- A block of text. -/
def readTextBlock (entries : Entries) : Checked TextBlock :=
  TextBlock.mk <$> readFrame "TextBlock" entries <*> field entries "text" text "" <*>
    field entries "size" Keyword.read .default <*> field entries "weight" Keyword.read .default <*>
    field entries "color" Keyword.read .default <*> field entries "isSubtle" switch false <*>
    field entries "wrap" switch false <*> field entries "maxLines" count 0 <*>
    field entries "horizontalAlignment" Keyword.read .left

/-- A fact. -/
def readFact (entries : Entries) : Checked Fact :=
  Fact.mk <$> field entries "title" text "" <*> field entries "value" text ""

/-- A list of facts. -/
def readFactSet (entries : Entries) : Checked FactSet :=
  FactSet.mk <$> readFrame "FactSet" entries <*>
    field entries "facts" (listOf (record "Fact" readFact)) []

/-- An option of a choice set. -/
def readChoice (entries : Entries) : Checked Choice :=
  Choice.mk <$> field entries "title" text "" <*> field entries "value" text ""

/-- A choice set. -/
def readChoiceSet (entries : Entries) : Checked ChoiceSet :=
  ChoiceSet.mk <$> readFrame "Input.ChoiceSet" entries <*>
    field entries "choices" (listOf (record "Choice" readChoice)) [] <*>
    field entries "isMultiSelect" switch false <*>
    field entries "style" Keyword.read .compact <*> text? entries "value"

/-- An input of text. -/
def readTextInput (entries : Entries) : Checked TextInput :=
  TextInput.mk <$> readFrame "Input.Text" entries <*> text? entries "placeholder" <*>
    text? entries "value" <*> field entries "isMultiline" switch false <*>
    field entries "maxLength" count 0

/-- An input of a number. -/
def readNumberInput (entries : Entries) : Checked NumberInput :=
  NumberInput.mk <$> readFrame "Input.Number" entries <*> text? entries "placeholder" <*>
    field entries "value" (optional number) none <*> field entries "min" (optional number) none <*>
    field entries "max" (optional number) none

/-- An input of a date or a time, of the given kind. -/
def readPicker (kind : String) (entries : Entries) : Checked Picker :=
  Picker.mk <$> readFrame kind entries <*> text? entries "placeholder" <*> text? entries "value" <*>
    text? entries "min" <*> text? entries "max"

/-- A switch. -/
def readToggle (entries : Entries) : Checked Toggle :=
  Toggle.mk <$> readFrame "Input.Toggle" entries <*> field entries "title" text "" <*>
    text? entries "value" <*> text? entries "valueOn" <*> text? entries "valueOff"

/-- What a path shows of a key that is no text. -/
def keyStep : Value → String
  | .bool b => if b then "1" else "0"
  | v => String.ofList (spelled v)

/-- The members of a mapping that none of the given names takes; all keys have to be texts. -/
def membersBeside (names : List String) : Entries → Checked (List (String × Value))
  | [] => .good []
  | (.text name, v) :: rest =>
    if names.contains name then membersBeside names rest
    else (membersBeside names rest).map ((name, v) :: ·)
  | (key, _) :: rest =>
    (fun _ members => members) <$>
      ((Checked.complain .keyNotText : Checked Unit).under (keyStep key)) <*>
      membersBeside names rest

/-- The names of the fields that every node has. -/
def frameNames : List String :=
  ["type", "id", "spacing", "separator"]

/-- What every node says of itself: its kind, which may be any, and its frame. -/
def readHead (entries : Entries) : Checked (String × Frame) :=
  (fun kind id spacing separator => (kind, { id, spacing, separator })) <$>
    required entries "type" text <*> text? entries "id" <*>
    field entries "spacing" Keyword.read .default <*> field entries "separator" switch false

/-- An element of a kind that is not known. -/
def readUnknownElement (entries : Entries) : Checked Unknown :=
  (fun head members => { kind := head.1, frame := head.2, title := none, members }) <$>
    readHead entries <*> membersBeside frameNames entries

/-- An action of a kind that is not known. -/
def readUnknownAction (entries : Entries) : Checked Unknown :=
  (fun head title members => { kind := head.1, frame := head.2, title, members }) <$>
    readHead entries <*> text? entries "title" <*> membersBeside ("title" :: frameNames) entries

/-- The address of an action. -/
def readAddress (v : Value) : Checked Url.Address :=
  match textLike? v with
  | some (some s) =>
    match Url.Address.read s with
    | .ok a => .good a
    | .error f => .complain (.badAddress f.message)
  | _ => .complain .notAddress

/-- The width of a column; numbers count as their text. -/
def readWidth (v : Value) : Checked (Option String) :=
  match v with
  | .int _ => .good (some (shownText v))
  | .float _ => .good (some (shownText v))
  | _ => optional text v

/-! ## Nodes with nodes in them -/

/-- The nodes that a mapping has in its members, by the spelling of the member. They are read when
they are asked for. -/
structure Children where
  elements : String → Checked (List Element)
  actions : String → Checked (List Action)
  columns : String → Checked (List Column)
  images : String → Checked (List Image)
  action : String → Checked (Option Action)
  card : String → Checked (Option Card)

/-- No nodes at all. -/
def Children.none : Children :=
  { elements := fun _ => .good [], actions := fun _ => .good [], columns := fun _ => .good []
    images := fun _ => .good [], action := fun _ => .good Option.none
    card := fun _ => .good Option.none }

/-- A field with nodes: those under the spelling that the document uses. -/
def nodesIn {α : Type} (entries : Entries) (name : String) (read : String → Checked α) :
    Checked α :=
  match Record.find? name entries with
  | some (spelling, _) => (read spelling).under spelling
  | Option.none => read name

/-- A card. -/
def cardOf (entries : Entries) (nodes : Children) : Checked Card :=
  Card.mk <$> readFrame "AdaptiveCard" entries <*>
    field entries "version" (optional text) (some "1.0") <*>
    nodesIn entries "body" nodes.elements <*> nodesIn entries "actions" nodes.actions <*>
    text? entries "fallbackText" <*> text? entries "backgroundImage"

/-- A container. -/
def containerOf (entries : Entries) (nodes : Children) : Checked Container :=
  Container.mk <$> readFrame "Container" entries <*> nodesIn entries "items" nodes.elements <*>
    nodesIn entries "selectAction" nodes.action

/-- A column. -/
def columnOf (entries : Entries) (nodes : Children) : Checked Column :=
  Column.mk <$> readFrame "Column" entries <*> nodesIn entries "items" nodes.elements <*>
    field entries "width" readWidth none <*> field entries "size" readWidth none <*>
    nodesIn entries "selectAction" nodes.action

/-- A row of columns. -/
def columnSetOf (entries : Entries) (nodes : Children) : Checked ColumnSet :=
  ColumnSet.mk <$> readFrame "ColumnSet" entries <*> nodesIn entries "columns" nodes.columns <*>
    nodesIn entries "selectAction" nodes.action

/-- An image. -/
def imageOf (entries : Entries) (nodes : Children) : Checked Image :=
  Image.mk <$> readFrame "Image" entries <*> required entries "url" text <*>
    text? entries "altText" <*> field entries "size" Keyword.read .auto <*>
    field entries "style" Keyword.read .default <*>
    field entries "horizontalAlignment" Keyword.read .left <*>
    nodesIn entries "selectAction" nodes.action

/-- A set of images. -/
def imageSetOf (entries : Entries) (nodes : Children) : Checked ImageSet :=
  ImageSet.mk <$> readFrame "ImageSet" entries <*> nodesIn entries "images" nodes.images <*>
    field entries "imageSize" Keyword.read .medium

/-- An action that submits the inputs. -/
def submitOf (entries : Entries) : Checked Action :=
  Action.submit <$> readFrame "Action.Submit" entries <*> text? entries "title" <*>
    field entries "data" anything .null

/-- An action that opens an address. -/
def openUrlOf (entries : Entries) : Checked Action :=
  Action.openUrl <$> readFrame "Action.OpenUrl" entries <*> text? entries "title" <*>
    required entries "url" readAddress

/-- An action that shows a card. -/
def showCardOf (entries : Entries) (nodes : Children) : Checked Action :=
  Action.showCard <$> readFrame "Action.ShowCard" entries <*> text? entries "title" <*>
    nodesIn entries "card" nodes.card

/-- The element of a kind, if the kind is known. -/
def elementOf? (kind : String) (entries : Entries) (nodes : Children) : Option (Checked Element) :=
  match kind with
  | "AdaptiveCard" => some (Element.card <$> cardOf entries nodes)
  | "Container" => some (Element.container <$> containerOf entries nodes)
  | "Column" => some (Element.column <$> columnOf entries nodes)
  | "ColumnSet" => some (Element.columnSet <$> columnSetOf entries nodes)
  | "FactSet" => some (Element.factSet <$> readFactSet entries)
  | "Image" => some (Element.image <$> imageOf entries nodes)
  | "ImageSet" => some (Element.imageSet <$> imageSetOf entries nodes)
  | "TextBlock" => some (Element.textBlock <$> readTextBlock entries)
  | "Input.ChoiceSet" => some (Element.choiceSet <$> readChoiceSet entries)
  | "Input.Text" => some (Element.textInput <$> readTextInput entries)
  | "Input.Number" => some (Element.numberInput <$> readNumberInput entries)
  | "Input.Date" => some (Element.dateInput <$> readPicker "Input.Date" entries)
  | "Input.Time" => some (Element.timeInput <$> readPicker "Input.Time" entries)
  | "Input.Toggle" => some (Element.toggle <$> readToggle entries)
  | _ => Option.none

/-- The action of a kind, if the kind is known. -/
def actionOf? (kind : String) (entries : Entries) (nodes : Children) : Option (Checked Action) :=
  match kind with
  | "Action.Submit" => some (submitOf entries)
  | "Action.OpenUrl" => some (openUrlOf entries)
  | "Action.ShowCard" => some (showCardOf entries nodes)
  | _ => Option.none

/-- The text that says the kind of a node, or the name of the kind of value that says it and cannot
be looked up. -/
def kindIn (entries : Entries) : Except String (Option String) :=
  match Value.find? "type" entries with
  | some (.text kind) => .ok (some kind)
  | some v => if v.isKey then .ok Option.none else .error v.kindName
  | Option.none => .ok Option.none

/-- A node of the kind that a mapping says, by the readers for known and for unknown kinds. -/
def readByKind {α : Type} (entries : Entries) (known? : String → Option (Checked α))
    (unknown : Checked α) : Checked α :=
  match kindIn entries with
  | .error kind => .halted kind
  | .ok Option.none => unknown.under "Unknown"
  | .ok (some kind) =>
    match known? kind with
    | some node => node.under kind
    | Option.none => unknown.under "Unknown"

mutual

/-- An element. -/
def readElement : Value → Checked Element
  | .map entries =>
    readByKind entries (fun kind => elementOf? kind entries (childrenOf entries))
      (Element.unknown <$> readUnknownElement entries)
  | _ => (Checked.complain (.notRecord "UnknownElement")).under "Unknown"

/-- An action. -/
def readAction : Value → Checked Action
  | .map entries =>
    readByKind entries (fun kind => actionOf? kind entries (childrenOf entries))
      (Action.unknown <$> readUnknownAction entries)
  | _ => (Checked.complain (.notRecord "UnknownAction")).under "Unknown"

/-- A column of a column set. -/
def readColumn : Value → Checked Column
  | .map entries => columnOf entries (childrenOf entries)
  | _ => .complain (.notRecord "Column")

/-- An image of a set of images. -/
def readImage : Value → Checked Image
  | .map entries => imageOf entries (childrenOf entries)
  | _ => .complain (.notRecord "Image")

/-- A card. -/
def readCard : Value → Checked Card
  | .map entries => cardOf entries (childrenOf entries)
  | _ => .complain (.notRecord "AdaptiveCard")

/-- A list of elements. -/
def elementsIn : Value → Checked (List Element)
  | .list vs => eachElement 0 vs
  | .tuple vs => eachElement 0 vs
  | .set vs => eachElement 0 vs
  | _ => .complain .notList

/-- A list of actions. -/
def actionsIn : Value → Checked (List Action)
  | .list vs => eachAction 0 vs
  | .tuple vs => eachAction 0 vs
  | .set vs => eachAction 0 vs
  | _ => .complain .notList

/-- A list of columns. -/
def columnsIn : Value → Checked (List Column)
  | .list vs => eachColumn 0 vs
  | .tuple vs => eachColumn 0 vs
  | .set vs => eachColumn 0 vs
  | _ => .complain .notList

/-- A list of images. -/
def imagesIn : Value → Checked (List Image)
  | .list vs => eachImage 0 vs
  | .tuple vs => eachImage 0 vs
  | .set vs => eachImage 0 vs
  | _ => .complain .notList

/-- The elements from a position on. -/
def eachElement (position : Nat) : List Value → Checked (List Element)
  | [] => .good []
  | v :: vs =>
    List.cons <$> (readElement v).under (positionText position) <*> eachElement (position + 1) vs

/-- The actions from a position on. -/
def eachAction (position : Nat) : List Value → Checked (List Action)
  | [] => .good []
  | v :: vs =>
    List.cons <$> (readAction v).under (positionText position) <*> eachAction (position + 1) vs

/-- The columns from a position on. -/
def eachColumn (position : Nat) : List Value → Checked (List Column)
  | [] => .good []
  | v :: vs =>
    List.cons <$> (readColumn v).under (positionText position) <*> eachColumn (position + 1) vs

/-- The images from a position on. -/
def eachImage (position : Nat) : List Value → Checked (List Image)
  | [] => .good []
  | v :: vs =>
    List.cons <$> (readImage v).under (positionText position) <*> eachImage (position + 1) vs

/-- The nodes in the members of a mapping. -/
def childrenOf : Entries → Children
  | [] => .none
  | (key, v) :: rest =>
    let others := childrenOf rest
    let named (name : String) : Bool := match key with
      | .text s => s == name
      | _ => false
    let optional {α : Type} (read : Unit → Checked α) : Checked (Option α) := match v with
      | .null => .good Option.none
      | _ => (read ()).map some
    { elements := fun name => if named name then elementsIn v else others.elements name
      actions := fun name => if named name then actionsIn v else others.actions name
      columns := fun name => if named name then columnsIn v else others.columns name
      images := fun name => if named name then imagesIn v else others.images name
      action := fun name =>
        if named name then optional fun _ => readAction v else others.action name
      card := fun name => if named name then optional fun _ => readCard v else others.card name }

end

end Placard.Document
