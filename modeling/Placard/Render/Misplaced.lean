import Placard.Render.Content
import Placard.Render.Group
import Placard.Render.Input

/-!
# Nodes of another family

An action among elements, or an element among actions, is of no kind of its family and so keeps its
members as plain data. Its kind has a renderer nevertheless. It is rendered from its members, which
are asked for one by one, under names with low lines, as the renderer of the kind needs them:

* a member that is missing, or that is not what it would have to be, fails the pass;
* members that could only hold nodes may be empty lists, since data is no node.
-/

namespace Placard.Render

open Placard.Text Placard.Data Placard.Document

/-! ## What data is good for -/

/-- What messages call a value whose members are asked for. -/
def objectName : Value → String
  | .date _ => "datetime.date"
  | .moment _ => "datetime.datetime"
  | v => v.kindName

/-- The fault of asking a value for a member that it has not. -/
def lacks {α : Type} (v : Value) (name : String) : Except Fault α :=
  .error (.noMember (objectName v) name)

/-- The values that going through a value gives. -/
def parts : Value → Except Fault (List Value)
  | .list vs => .ok vs
  | .tuple vs => .ok vs
  | .set vs => .ok vs
  | .map entries => .ok (entries.map (·.1))
  | .text s => .ok (s.toList.map fun c => .text (String.singleton c))
  | .bytes octets => .ok (octets.map fun b : Nat => .int b)
  | v => .error (.notIterable (objectName v))

/-- That all of these values are null, which is rendered as nothing. -/
def onlyNulls : List Value → Except Fault Unit
  | [] => .ok ()
  | .null :: vs => onlyNulls vs
  | v :: _ => lacks v "type"

/-- That a value holds no elements. -/
def noElements (v : Value) : Except Fault Unit := do
  if v.truthy then onlyNulls (← parts v)

/-- The first parts of a value that has an order. -/
def firstParts (count : Nat) (v : Value) : Except Fault (List Value) :=
  match v with
  | .map _ => .error (.notKey "slice")
  | .set _ => .error (.notSliced "set")
  | .list vs => .ok (vs.take count)
  | .tuple vs => .ok (vs.take count)
  | .text _ => (parts v).map (·.take count)
  | .bytes _ => (parts v).map (·.take count)
  | v => .error (.noLength (objectName v))

/-- That a value holds no actions that are shown. -/
def noActions (s : Scene) (v : Value) : Except Fault Unit := do
  match v with
  | .null => pure ()
  | v => if s.host.supportsInteractivity then onlyNulls (← firstParts s.host.actions.maxActions v)

/-- That a value is no action to select by. -/
def noSelection (s : Scene) (v : Value) : Except Fault Unit :=
  match v with
  | .null => .ok ()
  | v => if s.host.supportsInteractivity then lacks v "type" else .ok ()

/-- The keyword that a value is written as. -/
def keyword? {α : Type} [Keyword α] : Value → Option α
  | .text s => (Keyword.all (α := α)).find? fun k => Keyword.text k == s
  | _ => none

/-- That a value can be looked up. -/
def lookedUp (v : Value) : Except Fault Unit :=
  if v.isKey then .ok () else .error (.notKey v.kindName)

/-- Whether a value is a list or a mapping. -/
def isCompound : Value → Bool
  | .list _ => true
  | .tuple _ => true
  | .map _ => true
  | .set _ => true
  | _ => false

/-- Whether two values are the same. -/
def sameData (v w : Value) : Bool :=
  v.sameKey w || (isCompound v && isCompound w && spelled v == spelled w)

/-- Whether texts and octets have a title of their own. -/
def hasTitle : Value → Bool
  | .text _ => true
  | .bytes _ => true
  | _ => false

/-! ## Elements -/

/-- A tag with an attribute set to a value, if that counts as present. -/
def setPresent (name : String) (v : Value) (t : Tag) : Tag :=
  if v.truthy then t.setAttr name (shownText v) else t

/-- A text: its alignment is never read from data. -/
def misplacedText (s : Scene) (get : String → Except Fault Value) : Except Fault Tag := do
  let size ← get "size"
  lookedUp size
  lookedUp (← get "weight")
  let _ ← toDouble (s.host.fontSizes.size ((keyword? size).getD .default))
  lacks (← get "horizontal_alignment") "value"

/-- A card. -/
def misplacedCard (s : Scene) (get : String → Except Fault Value) : Except Fault Tag := do
  let image ← get "background_image"
  let body ← get "body"
  let actions ← get "actions"
  noElements body
  noActions s actions
  return cardFrame s.host (if image.truthy then some (shownText image) else none)

/-- A container or a column. -/
def misplacedStack (s : Scene) (kind : String) (get : String → Except Fault Value) :
    Except Fault Tag := do
  noElements (← get "items")
  noSelection s (← get "select_action")
  return (Tag.named "div").addClass (kindClass kind)

/-- A row of columns. -/
def misplacedRow (s : Scene) (get : String → Except Fault Value) : Except Fault Tag := do
  noSelection s (← get "select_action")
  match ← parts (← get "columns") with
  | [] => return emptyRow
  | v :: _ => lacks v "width"

/-- A list of facts. -/
def misplacedFacts (get : String → Except Fault Value) : Except Fault Tag := do
  match ← parts (← get "facts") with
  | [] => return (Tag.named "ul").addClass (kindClass "FactSet") |>.setStyle .overflow "hidden"
  | v :: _ =>
    if hasTitle v then throw (.invalid ⟨["text"], .notText⟩ []) else lacks v "title"

/-- The size of an image. -/
def misplacedSize (v : Value) : Except Fault ImageSize := do
  lookedUp v
  match keyword? v with
  | some size => return size
  | none => throw (.absentKey v)

/-- An image. -/
def misplacedImage (s : Scene) (get : String → Except Fault Value) : Except Fault Tag := do
  let size ← misplacedSize (← get "size")
  let alt ← get "alt_text"
  let url ← get "url"
  let style := (keyword? (← get "style")).getD .default
  let alignment := (keyword? (← get "horizontal_alignment")).getD .left
  noSelection s (← get "select_action")
  return (placed alignment (sizedFor s.host.imageSizes size imageFrame)).append
    (picture (shownText url) (if alt.truthy then some (shownText alt) else none) style)

/-- A set of images. -/
def misplacedImages (get : String → Except Fault Value) : Except Fault Tag := do
  match ← parts (← get "images") with
  | [] => pure ()
  | v :: vs =>
    match (keyword? (← get "image_size") : Option ImageSize) with
    | some .auto => onlyNulls (v :: vs)
    | _ => lacks v "model_copy"
  return (Tag.named "ul").addClass (kindClass "ImageSet")

/-! ## Inputs -/

/-- That a value can be a list of values with commas between them. -/
def noValues (v : Value) : Except Fault Unit :=
  match v with
  | .text _ => .ok ()
  | .bytes octets => if octets.isEmpty then .ok () else .error .notOctets
  | v => if v.truthy then lacks v "split" else .ok ()

/-- A list of choices. -/
def misplacedChoices (get : String → Except Fault Value) : Render Tag := do
  ofExcept (noValues =<< get "value")
  match ← ofExcept (parts =<< get "choices") with
  | [] => return inputBlock
  | v :: _ =>
    let _ ← freshId
    ofExcept (lacks v "value")

/-- A menu of choices. -/
def misplacedMenu (name : String) (get : String → Except Fault Value) : Except Fault Tag := do
  match ← parts (← get "choices") with
  | [] => return emptyMenu name
  | v :: _ => lacks v (if hasTitle v then "value" else "title")

/-- A choice set. -/
def misplacedChoiceSet (frame : Frame) (get : String → Except Fault Value) : Render Tag := do
  if (← ofExcept (get "is_multi_select")).truthy then misplacedChoices get
  else
    match (keyword? (← ofExcept (get "style")) : Option ChoiceStyle) with
    | some .compact => ofExcept (misplacedMenu (submitName frame) get)
    | _ => misplacedChoices get

/-- Whether a value is a number above zero. -/
def isPositive (v : Value) : Except Fault Bool :=
  match v with
  | .bool b => .ok b
  | .int i => .ok (decide (0 < i))
  | .float x => .ok (Number.Double.lt (.ofInt 0) x)
  | v => .error (.notPositive (objectName v))

/-- An input of text. -/
def misplacedTextInput (frame : Frame) (get : String → Except Fault Value) : Except Fault Tag := do
  let t ←
    if (← get "is_multiline").truthy then do
      let value ← get "value"
      pure ((Tag.named "textarea").setText (if value.truthy then shown? value else none))
    else do
      pure (setPresent "value" (← get "value") ((Tag.named "input").setAttr "type" "text"))
  let t := t.setAttr "name" (submitName frame) |>.addClass "ac-textinput"
    |>.addClass "ac-input" |>.setStyle .width "100%"
  let t := setPresent "placeholder" (← get "placeholder") t
  let limit ← get "max_length"
  return if ← isPositive limit then t.setAttr "maxLength" (shownText limit) else t

/-- A tag with an attribute set to a number. -/
def setMisplacedNumber (name : String) (v : Value) (t : Tag) : Except Fault Tag :=
  match v with
  | .null => .ok t
  | .float x => .ok (setNumber name (some x) t)
  | .int i => (toDouble i).bind fun _ => lacks v "is_integer"
  | .bool _ => lacks v "is_integer"
  | v => .error (.notReal (objectName v))

/-- An input of a number. -/
def misplacedNumberInput (frame : Frame) (get : String → Except Fault Value) :
    Except Fault Tag := do
  let t := numberInputTag { frame := frame }
  let t ← setMisplacedNumber "min" (← get "min") t
  let t ← setMisplacedNumber "max" (← get "max") t
  let t ← setMisplacedNumber "value" (← get "value") t
  return setPresent "placeholder" (← get "placeholder") t

/-- An input of a date or a time. -/
def misplacedPicker (type className : String) (frame : Frame)
    (get : String → Except Fault Value) : Except Fault Tag := do
  let t := pickerTag type className { frame := frame }
  let t := setPresent "value" (← get "value") t
  let t := setPresent "min" (← get "min") t
  let t := setPresent "max" (← get "max") t
  return setPresent "placeholder" (← get "placeholder") t

/-- The value of a position of a toggle. -/
def positionValue (default : String) : Value → Value
  | .null => .text default
  | v => v

/-- A toggle. -/
def misplacedToggle (s : Scene) (frame : Frame) (get : String → Except Fault Value) :
    Render Tag := do
  let id ← freshId
  let on := positionValue "True" (← ofExcept (get "value_on"))
  let off := positionValue "False" (← ofExcept (get "value_off"))
  let value ← ofExcept (get "value")
  let control :=
    toggleControl id (submitName frame) (shownText on) (shownText off) (sameData value on)
  let title ← ofExcept (get "title")
  return (inputBlock.append control).append ((label s id "").setText (shown? title))

/-- The tag of a node of unknown kind, if the kind is one of another family. -/
def renderMisplaced (s : Scene) (node : Node) (u : Unknown) : Render (Option Tag) :=
  let get := member node
  match u.kind with
  | "AdaptiveCard" => some <$> ofExcept (misplacedCard s get)
  | "TextBlock" => some <$> ofExcept (misplacedText s get)
  | "Image" => some <$> ofExcept (misplacedImage s get)
  | "Container" => some <$> ofExcept (misplacedStack s "Container" get)
  | "Column" => some <$> ofExcept (misplacedStack s "Column" get)
  | "ColumnSet" => some <$> ofExcept (misplacedRow s get)
  | "FactSet" => some <$> ofExcept (misplacedFacts get)
  | "ImageSet" => some <$> ofExcept (misplacedImages get)
  | "Input.ChoiceSet" => some <$> misplacedChoiceSet u.frame get
  | "Input.Text" => some <$> ofExcept (misplacedTextInput u.frame get)
  | "Input.Number" => some <$> ofExcept (misplacedNumberInput u.frame get)
  | "Input.Date" => some <$> ofExcept (misplacedPicker "date" "ac-dateInput" u.frame get)
  | "Input.Time" => some <$> ofExcept (misplacedPicker "time" "ac-timeInput" u.frame get)
  | "Input.Toggle" => some <$> misplacedToggle s u.frame get
  | _ => renderAction s node

end Placard.Render
